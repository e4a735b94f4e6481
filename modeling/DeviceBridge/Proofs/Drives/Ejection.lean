import DeviceBridge.Proofs.Drives.Runs

/-
  What is left of a disk that was ejected. A drive unmounts the path that it keeps, and whatever its
  accesses have mounted besides stays: these are the mounts that were overlooked when the drive was
  last attached or detached, at any side (`ejected_but_overlooked`). So a drive at one side leaves
  nothing behind, and a drive at two sides does (`twin_still_serves`).
-/

namespace DeviceBridge.Host

variable {d : DeviceId} {past : Past} {h : Host} {s : DriveState}

/-- The contents of a disk are mounted through an access of a drive. -/
def Provides (h : Host) (d : DeviceId) (contents : VolumeId) (id : AccessId) (m : MountPoint) :
    Prop :=
  h.deviceOf id = some d ∧ h.Carries id m ∧ m.backing = .writable contents

namespace Minds

/-- The path of a drive is where its disk is mounted, through the access that it keeps. -/
theorem path_real (minds : Minds d past h) (found : h.driveState? d = some s) {path : String}
    (kept : s.mountPath = some path) : ∃ id disk, s.access = some id ∧ s.disk = some disk ∧
      h.Provides d disk.contents id ⟨"disk", path, .writable disk.contents⟩ := by
  have there := record?_of_driveState? found
  obtain ⟨id, v, connected, inside, carries⟩ := minds.real _ path there kept
  obtain ⟨disk, full, rfl⟩ := Option.map_eq_some_iff.mp inside
  exact ⟨id, disk, connected, full, minds.own _ id there connected, carries, rfl⟩

/-- Without a path the drive is not connected, or its disk was refused. -/
theorem no_path (minds : Minds d past h) (found : h.driveState? d = some s)
    (full : s.disk.isSome) (none : s.mountPath = none) : s.access = Option.none ∨ past.refused := by
  cases connected : s.access with
  | none => exact .inl rfl
  | some id =>
    have inside : s.record.contents.isSome := by
      rw [DriveState.record, Option.isSome_map]
      exact full
    exact .inr (minds.refused _ id (record?_of_driveState? found) connected inside none)

/-- After an eject, what was not kept is left. -/
theorem left_behind (minds : Minds d past h) (found : h.driveState? d = some s)
    (contents : VolumeId) (id : AccessId) (m : MountPoint) :
    ((h.ejectDisk d).2.Provides d contents id m ↔ h.Provides d contents id m ∧
      ¬(s.access = some id ∧ s.mountPath = some m.location)) ∧
    ((h.ejectDisk d).2.Provides d contents id m ↔
      past.overlooked id m ∧ m.backing = .writable contents) := by
  obtain ⟨-, carries⟩ := minds.ejected found
  have owners := deviceOf_served (ejectDisk_served h d) id
  have left : (h.ejectDisk d).2.Provides d contents id m ↔ h.deviceOf id = some d ∧
      (h.Carries id m ∧ ¬h.Recorded d id m.location) ∧ m.backing = .writable contents := by
    unfold Provides
    rw [owners, carries]
  constructor
  · rw [left, Provides, recorded_iff (record?_of_driveState? found)]
    tauto
  · rw [left, minds.overlooked]
    tauto

end Minds

/-- In every state that attaches, detaches, inserts and ejects of a drive lead to, at any number of
sides: the drive is connected through the access by which it was last attached, unless it has been
detached anywhere since. Its path is a location where its disk is mounted, through that access; and
without a path it is not connected, or the disk was refused when it was last to be mounted. An eject
takes away that one mount. The mounts by which accesses of the drive still serve the contents of the
disk afterwards are those that were overlooked: the accesses had them when the drive was last
attached or detached anywhere, and have had them since. Commands whose hooks may nest, inserts and
ejects lead to such states again. -/
theorem ejected_but_overlooked (tended : Tended d past h) (found : h.driveState? d = some s) :
    s.access = past.connected ∧
    (∀ path, s.mountPath = some path → ∃ id disk, s.access = some id ∧ s.disk = some disk ∧
      h.Provides d disk.contents id ⟨"disk", path, .writable disk.contents⟩) ∧
    (s.disk.isSome → s.mountPath = none → s.access = none ∨ past.refused) ∧
    (∀ disk, s.disk = some disk → (h.ejectDisk d).1 = some disk ∧ ∀ id m,
      ((h.ejectDisk d).2.Provides d disk.contents id m ↔ h.Provides d disk.contents id m ∧
        ¬(s.access = some id ∧ s.mountPath = some m.location)) ∧
      ((h.ejectDisk d).2.Provides d disk.contents id m ↔
        past.overlooked id m ∧ m.backing = .writable disk.contents)) ∧
    (h.Wired → Housed d h →
      (∀ depth command, Keeping d (h.perform (Program.run depth) command).2) ∧
      (∀ other disk, Keeping d (h.insertDisk other disk).2) ∧
      ∀ other, Keeping d (h.ejectDisk other).2) := by
  have minds := tended.minds
  obtain ⟨leases, records⟩ := minds.leased
  refine ⟨minds.connected _ (record?_of_driveState? found),
    fun path kept => minds.path_real found kept, minds.no_path found,
    fun disk inside => ⟨?_, minds.left_behind found disk.contents⟩, fun wired housed => ?_⟩
  · rw [(records.ejectDisk found).1, inside]
  · have keeping : Keeping d h := ⟨⟨past, tended⟩, wired, housed⟩
    exact ⟨keeping.perform, keeping.insertDisk, keeping.ejectDisk⟩

/-! ## A drive at two sides -/

/-- A drive with a disk. -/
def twin : Device := Drive.new (some ⟨7, some "log", 0⟩)

def twinHost : Host := (((Host.new Config.default).newVolume []).2.addDevice twin).2

/-- It is started on the left and on the right. -/
def twinStarted : Host :=
  [Command.set .left (some ⟨0⟩), .set .right (some ⟨0⟩), .start].foldl
    (fun h c => (h.perform (Program.run 1) c).2) twinHost

theorem twin_keeping : Keeping ⟨0⟩ twinStarted := by
  have only {other : DeviceId} {x : Device} (found : twinHost.device? other = some x) :
      other = ⟨0⟩ ∧ x = twin := by
    obtain ⟨n⟩ := other
    cases n with
    | zero =>
      cases found
      exact ⟨rfl, rfl⟩
    | succ n => cases found
  have housed : Housed ⟨0⟩ twinHost := by
    refine ⟨fun x found => ?_, fun x found => ?_, fun other x differs found => ?_⟩
    · rw [(only found).2]
      rfl
    · rw [(only found).2]
      rfl
    · exact absurd (only found).1 differs
  have idle (d : DeviceId) (r : DriveRecord) (found : twinHost.record? d = some r) :
      r.access = none ∧ r.path = none := by
    cases known : twinHost.device? d with
    | none =>
      rw [record?, driveState?, state?, known] at found
      cases found
    | some x =>
      obtain ⟨rfl, rfl⟩ := only known
      cases found
      exact ⟨rfl, rfl⟩
  have start : Keeping ⟨0⟩ twinHost := .start ⟨rfl, rfl, rfl⟩ rfl idle housed
  exact ((start.perform 1 (.set .left (some ⟨0⟩))).perform 1 (.set .right (some ⟨0⟩))).perform 1
    .start

/-- The drive keeps the second of its mounts, and the first one has been overlooked. -/
theorem ejected_but_overlooked_twin : ∃ past, Tended ⟨0⟩ past twinStarted ∧
    past.connected = some ⟨.left, 0⟩ ∧
    past.overlooked ⟨.right, 1⟩ ⟨"disk", "disk", .writable 0⟩ := by
  obtain ⟨past, tended⟩ := twin_keeping.tends
  obtain ⟨s, found, connected, disk, inside, contents⟩ : ∃ s,
      twinStarted.driveState? ⟨0⟩ = some s ∧ s.access = some ⟨.left, 0⟩ ∧
        ∃ disk, s.disk = some disk ∧ disk.contents = 0 := ⟨_, rfl, rfl, _, rfl, rfl⟩
  obtain ⟨last, -, -, left, -⟩ := ejected_but_overlooked tended found
  have serves : (twinStarted.ejectDisk ⟨0⟩).2.Provides ⟨0⟩ disk.contents ⟨.right, 1⟩
      ⟨"disk", "disk", .writable 0⟩ := by
    rw [contents]
    exact ⟨rfl, ⟨List.mem_singleton_self _, List.mem_singleton_self _⟩, rfl⟩
  have overlooked := (((left disk inside).2 ⟨.right, 1⟩ _).2.mp serves).1
  exact ⟨past, tended, last.symm.trans connected, overlooked⟩

/-- The drive keeps the second of its mounts, and ejects the disk from there; the first one still
serves the disk. When the drive is detached on the right instead, it keeps no path, although it is
still attached on the left and its disk is mounted there. -/
theorem twin_still_serves :
    (twinStarted.ejectDisk ⟨0⟩).1.map (·.contents) = some 0 ∧
    (twinStarted.ejectDisk ⟨0⟩).2.isAttached ⟨.right, 1⟩ = true ∧
    (twinStarted.ejectDisk ⟨0⟩).2.Provides ⟨0⟩ 0 ⟨.right, 1⟩ ⟨"disk", "disk", .writable 0⟩ ∧
    ∃ h s, twinStarted.perform (Program.run 1) (.set .right none) = (.ok (), h) ∧
      h.driveState? ⟨0⟩ = some s ∧ s.disk.isSome ∧ s.mountPath = none ∧
      h.isAttached ⟨.left, 0⟩ = true ∧
      h.Provides ⟨0⟩ 0 ⟨.left, 0⟩ ⟨"disk", "disk2", .writable 0⟩ := by
  refine ⟨rfl, rfl, ⟨rfl, ⟨List.mem_singleton_self _, List.mem_singleton_self _⟩, rfl⟩,
    _, _, rfl, rfl, rfl, rfl, rfl, rfl, ⟨List.mem_singleton_self _, List.mem_singleton_self _⟩, rfl⟩

end DeviceBridge.Host
