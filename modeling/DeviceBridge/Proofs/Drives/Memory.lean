import DeviceBridge.Proofs.Drives.Mounts

/-
  What a drive remembers of its mounts, and what it does not. It keeps one access and one path, and
  every attach and every detach at any side writes over them; the mounts that its accesses have at
  that moment are overlooked from then on, until they are unmounted by other ways (`Past`). `Tended`
  is a run as the drive sees it: it is attached, detached, filled and emptied, and all else goes on
  aside of it. `Minds` says that what it keeps is right and that the overlooked mounts are all the
  others; every step keeps that (`Tended.minds`).
-/

namespace DeviceBridge.Host

/-- The path that a drive keeps, and the access that it was last attached through. -/
def Recorded (h : Host) (d : DeviceId) (id : AccessId) (location : String) : Prop :=
  ∃ r, h.record? d = some r ∧ r.access = some id ∧ r.path = some location

theorem recorded_iff {h : Host} {d : DeviceId} {r : DriveRecord} (record : h.record? d = some r)
    (id : AccessId) (location : String) :
    h.Recorded d id location ↔ r.access = some id ∧ r.path = some location := by
  unfold Recorded
  rw [record]
  simp only [Option.some.injEq, exists_eq_left']

/-- What became of a drive: the access through which it was attached, if that came last and not a
detach; the mounts that its accesses had at that time and have had since; and whether its disk was
refused when it was last to be mounted. -/
structure Past where
  connected : Option AccessId
  overlooked : AccessId → MountPoint → Prop
  refused : Prop

namespace Past

def none : Past := ⟨Option.none, fun _ _ => False, False⟩

/-- What was overlooked and is still there. -/
def still (past : Past) (h : Host) : Past :=
  { past with overlooked := fun id m => past.overlooked id m ∧ h.Carries id m }

/-- The drive is attached or detached: all that its accesses carry is overlooked. -/
def turned (d : DeviceId) (h : Host) (connected : Option AccessId) (refused : Prop) : Past :=
  ⟨connected, fun id m => h.deviceOf id = some d ∧ h.Carries id m, refused⟩

/-- Nothing more is overlooked, and a disk is to be mounted if the drive is connected. -/
def refilled (past : Past) (d : DeviceId) (emptied : Host) : Past :=
  { past.still emptied with
    refused := ∃ r id, emptied.record? d = some r ∧ r.access = some id ∧ emptied.Refuses id }

end Past

/-- Something that is none of the business of a drive: it keeps its record, and its accesses have
mounted nothing since; they may have lost mounts, but not the one that the drive keeps. -/
structure Aside (d : DeviceId) (h h' : Host) : Prop where
  follows : Follows h h'
  record : h'.record? d = h.record? d
  owners : SameOwners h h'
  fewer : ∀ id m, h'.deviceOf id = some d → h'.Carries id m → h.Carries id m
  kept : ∀ id m, h.Recorded d id m.location → h.Carries id m → h'.Carries id m

theorem Aside.elsewhere {d : DeviceId} {h h' : Host} (mounts : h'.files.mounts = h.files.mounts)
    (accesses : h'.accesses = h.accesses) (record : h'.record? d = h.record? d) :
    Aside d h h' :=
  ⟨Follows.elsewhere mounts accesses, record, .ofEq (deviceOf_elsewhere accesses),
    fun _ _ _ => (carries_elsewhere mounts accesses).mp,
    fun _ _ _ => (carries_elsewhere mounts accesses).mpr⟩

/-- What happens to a drive, from a host on where it was never attached. -/
inductive Tended (d : DeviceId) : Past → Host → Prop where
  | start {h : Host} {leases : List Lease} (records : Records h leases)
      (unused : ∀ id, h.deviceOf id ≠ some d)
      (idle : ∀ r, h.record? d = some r → r.access = none ∧ r.path = none) :
      Tended d Past.none h
  | aside {past : Past} {h h' : Host} (before : Tended d past h) (aside : Aside d h h') :
      Tended d (past.still h') h'
  | connect {past : Past} {h : Host} (before : Tended d past h) (id : AccessId)
      (own : h.deviceOf id = some d) :
      Tended d (Past.turned d h (some id) (h.Refuses id))
        (h.after (.ask (.device d (.connect id))))
  | disconnect {past : Past} {h : Host} (before : Tended d past h) :
      Tended d (Past.turned d h none False) (h.after (.ask (.device d .disconnect)))
  | eject {past : Past} {h : Host} (before : Tended d past h) :
      Tended d (past.still (h.ejectDisk d).2) (h.ejectDisk d).2
  /-- The disk is mounted when the one that was there has been taken out. -/
  | insert {past : Past} {h : Host} (before : Tended d past h) (disk : Disk) :
      Tended d (past.refilled d (h.ejectDisk d).2) (h.insertDisk d disk).2

/-- What a drive keeps is right, and what its accesses have mounted besides is overlooked. -/
structure Minds (d : DeviceId) (past : Past) (h : Host) : Prop where
  leased : ∃ leases, Records h leases
  own : ∀ r id, h.record? d = some r → r.access = some id → h.deviceOf id = some d
  connected : ∀ r, h.record? d = some r → r.access = past.connected
  idle : ∀ r, h.record? d = some r → r.access = none → r.path = none
  real : ∀ r path, h.record? d = some r → r.path = some path → ∃ id v, r.access = some id ∧
    r.contents = some v ∧ h.Carries id ⟨"disk", path, .writable v⟩
  overlooked : ∀ id m, past.overlooked id m ↔
    h.deviceOf id = some d ∧ h.Carries id m ∧ ¬h.Recorded d id m.location
  refused : ∀ r id, h.record? d = some r → r.access = some id → r.contents.isSome → r.path = none →
    past.refused

namespace Minds

variable {d : DeviceId} {past : Past} {h h' : Host}

/-- A drive has one record, so this is all that there is to say of it. -/
theorem of_record {r : DriveRecord} (record : h.record? d = some r)
    (leased : ∃ leases, Records h leases) (own : ∀ id, r.access = some id → h.deviceOf id = some d)
    (connected : r.access = past.connected) (idle : r.access = none → r.path = none)
    (real : ∀ path, r.path = some path → ∃ id v, r.access = some id ∧ r.contents = some v ∧
      h.Carries id ⟨"disk", path, .writable v⟩)
    (overlooked : ∀ id m, past.overlooked id m ↔
      h.deviceOf id = some d ∧ h.Carries id m ∧ ¬(r.access = some id ∧ r.path = some m.location))
    (refused : ∀ id, r.access = some id → r.contents.isSome → r.path = none → past.refused) :
    Minds d past h := by
  have only {r' : DriveRecord} (found : h.record? d = some r') : r' = r :=
    Option.some.inj (found.symm.trans record)
  refine ⟨leased, fun r' id found => only found ▸ own id, fun r' found => only found ▸ connected,
    fun r' found => only found ▸ idle, fun r' path found => only found ▸ real path, fun id m => ?_,
    fun r' id found => only found ▸ refused id⟩
  rw [recorded_iff record]
  exact overlooked id m

/-- A drive that is not connected keeps no path, and all that its accesses have mounted is
overlooked. This holds of a device that is no drive as well. -/
theorem unconnected {leases : List Lease} (records : Records h leases)
    (idle : ∀ r, h.record? d = some r → r.access = none ∧ r.path = none ∧ past.connected = none)
    (overlooked : ∀ id m, past.overlooked id m ↔ h.deviceOf id = some d ∧ h.Carries id m) :
    Minds d past h := by
  have alone {r : DriveRecord} {id : AccessId} (found : h.record? d = some r) :
      r.access ≠ some id := by
    rw [(idle r found).1]
    exact (Option.some_ne_none id).symm
  refine ⟨⟨leases, records⟩, fun r id found connected => absurd connected (alone found),
    fun r found => ?connected, fun r found _ => (idle r found).2.1,
    fun r path found here => ?real, fun id m => ?overlooked,
    fun r id found connected => absurd connected (alone found)⟩
  case connected => exact (idle r found).1.trans (idle r found).2.2.symm
  case real =>
    rw [(idle r found).2.1] at here
    cases here
  case overlooked =>
    refine (overlooked id m).trans (and_congr_right fun _ => (and_iff_left ?_).symm)
    rintro ⟨r, found, connected, -⟩
    exact alone found connected

theorem start {leases : List Lease} (records : Records h leases)
    (unused : ∀ id, h.deviceOf id ≠ some d)
    (idle : ∀ r, h.record? d = some r → r.access = none ∧ r.path = none) :
    Minds d Past.none h := by
  refine unconnected records (fun r found => ?_) fun id m => ?_
  · exact ⟨(idle r found).1, (idle r found).2, rfl⟩
  · exact iff_of_false not_false fun mine => unused id mine.1

theorem recorded_congr (record : h'.record? d = h.record? d) (id : AccessId) (location : String) :
    h'.Recorded d id location ↔ h.Recorded d id location := by
  unfold Recorded
  rw [record]

theorem aside (minds : Minds d past h) (aside : Aside d h h') : Minds d (past.still h') h' := by
  obtain ⟨⟨leases, records⟩, own, connected, idle, real, overlooked, refused⟩ := minds
  obtain ⟨leases', steps⟩ := aside.follows leases
  have same := aside.record
  have recorded := recorded_congr same
  rw [← same] at own connected idle real refused
  refine ⟨⟨leases', records.moves steps⟩, fun r id found connected => ?_, connected, idle,
    fun r path found here => ?_, fun id m => ?_, refused⟩
  · exact aside.owners id d (own r id found connected)
  · obtain ⟨id, v, connected, inside, carries⟩ := real r path found here
    refine ⟨id, v, connected, inside, aside.kept id _ ((recorded id _).mp ?_) carries⟩
    exact ⟨r, found, connected, here⟩
  · rw [recorded]
    constructor
    · rintro ⟨lost, carries⟩
      obtain ⟨mine, -, unkept⟩ := (overlooked id m).mp lost
      exact ⟨aside.owners id d mine, carries, unkept⟩
    · rintro ⟨mine, carries, unkept⟩
      have before := aside.fewer id m mine carries
      obtain ⟨d', known⟩ := before.known
      have owner := aside.owners id d' known
      rw [mine] at owner
      cases owner
      exact ⟨(overlooked id m).mpr ⟨known, before, unkept⟩, carries⟩

/-- The past may be told in other words. -/
theorem retold {past' : Past} (minds : Minds d past h)
    (connected : ∀ r, h.record? d = some r → r.access = past'.connected)
    (overlooked : ∀ id m, past'.overlooked id m ↔ past.overlooked id m)
    (refused : past.refused → past'.refused) : Minds d past' h :=
  { minds with
    connected
    overlooked := fun id m => (overlooked id m).trans (minds.overlooked id m)
    refused := fun r id found connected inside none =>
      refused (minds.refused r id found connected inside none) }

/-- Of a device that is no drive there is nothing to be kept. -/
theorem absent {leases : List Lease} (records : Records h leases) (absent : h.driveState? d = none)
    (overlooked : ∀ id m, past.overlooked id m ↔ h.deviceOf id = some d ∧ h.Carries id m) :
    Minds d past h := by
  refine unconnected records (fun r there => ?_) overlooked
  rw [record?, absent] at there
  cases there

/-- When a disk was to be mounted, the new mount is the one that the drive keeps. -/
theorem mountDrive {s : DriveState} {leases : List Lease} (records : Records h leases)
    (found : h.driveState? d = some s) {s' : DriveState} {access : AccessId}
    (own : h.deviceOf access = some d) (connected : s'.access = some access) :
    Minds d (Past.turned d h (some access) (h.Refuses access)) (h.mountDrive d s' access) := by
  have record := record?_mountDrive found s' access
  have owners := deviceOf_served (mountDrive_served h d s' access)
  have carries : ∀ id m, (h.mountDrive d s' access).Carries id m ↔ h.Carries id m ∨ id = access ∧
      ∃ disk path, s'.disk = some disk ∧ h.mountedPath s' access = some path ∧
        m = ⟨"disk", path, .writable disk.contents⟩ :=
    fun id m => records.carries_mountDrive d s' access
  obtain ⟨leases', steps⟩ := Follows.mountDrive h d s' access leases
  refine of_record record ⟨leases', records.moves steps⟩ (fun id mine => ?own) connected
    (fun alone => ?idle) (fun path here => ?real) (fun id m => ?overlooked)
    fun id _ full none => ?refused
  case own =>
    rw [Option.some.inj (mine.symm.trans connected)]
    exact (owners access).trans own
  case idle => exact absurd (connected.symm.trans alone) (Option.some_ne_none access)
  case real =>
    obtain ⟨disk, inside, mounted⟩ := Option.bind_eq_some_iff.mp here
    refine ⟨access, disk.contents, connected, congrArg (Option.map Disk.contents) inside, ?_⟩
    exact (carries _ _).mpr (.inr ⟨rfl, disk, path, inside, here, rfl⟩)
  case overlooked =>
    rw [owners, carries]
    constructor
    · rintro ⟨mine, early⟩
      refine ⟨mine, .inl early, ?_⟩
      -- the disk was mounted where nothing was
      rintro ⟨-, here⟩
      obtain ⟨disk, -, mounted⟩ := Option.bind_eq_some_iff.mp here
      exact mountDisk_free mounted (records.of_carries early).1
    · rintro ⟨mine, early | ⟨rfl, disk, path, inside, mounted, rfl⟩, unkept⟩
      · exact ⟨mine, early⟩
      · exact absurd ⟨connected, mounted⟩ unkept
  case refused =>
    obtain ⟨disk, inside⟩ : ∃ disk, s'.disk = some disk := by
      rw [Option.isSome_map] at full
      exact Option.isSome_iff_exists.mp full
    rw [mountedPath, inside, Option.bind_some] at none
    exact mountDisk_refused none

/-- An eject takes away the mount that the drive keeps, and no other. -/
theorem ejected {s : DriveState} (minds : Minds d past h) (found : h.driveState? d = some s) :
    (h.ejectDisk d).2.record? d = some ⟨Option.none, s.access, Option.none⟩ ∧
    ∀ id m, (h.ejectDisk d).2.Carries id m ↔ h.Carries id m ∧ ¬h.Recorded d id m.location := by
  obtain ⟨leases, records⟩ := minds.leased
  obtain ⟨-, record, -, carries⟩ := records.ejectDisk found
  have there := record?_of_driveState? found
  constructor
  · rw [record]
    cases kept : s.mountPath with
    | none => rw [ite_self]
    | some path =>
      obtain ⟨id, v, connected, inside, -⟩ := minds.real _ path there kept
      rw [if_pos ⟨DriveState.full_of_contents inside, Option.isSome_iff_exists.mpr ⟨id, connected⟩⟩]
  · intro id m
    rw [carries]
    refine and_congr_right fun _ => not_congr ⟨?_, ?_⟩
    · rintro ⟨-, connected, normal⟩
      obtain ⟨path, kept, same⟩ := Option.map_eq_some_iff.mp normal
      obtain ⟨id', v, -, -, held⟩ := minds.real _ path there kept
      rw [show Path.normalize path = path from (records.of_carries held).2.1] at same
      exact ⟨_, there, connected, kept.trans (congrArg some same)⟩
    · rintro ⟨r, here, connected, kept⟩
      rw [there] at here
      cases here
      obtain ⟨id', v, -, inside, held⟩ := minds.real _ m.location there kept
      refine ⟨DriveState.full_of_contents inside, connected, ?_⟩
      rw [show s.mountPath = some m.location from kept, Option.map_some]
      exact congrArg some (records.of_carries held).2.1

/-- An empty drive keeps no path. -/
theorem pathless (minds : Minds d past h) {r : DriveRecord}
    (there : (h.ejectDisk d).2.record? d = some r) : r.path = none := by
  cases found : h.driveState? d with
  | none =>
    rw [ejectDisk_absent found, record?, found] at there
    cases there
  | some s =>
    rw [(minds.ejected found).1] at there
    cases there
    rfl

theorem eject (minds : Minds d past h) :
    Minds d (past.still (h.ejectDisk d).2) (h.ejectDisk d).2 := by
  cases found : h.driveState? d with
  | none =>
    rw [ejectDisk_absent found]
    exact minds.retold minds.connected (fun id m => and_iff_left_of_imp fun lost =>
      ((minds.overlooked id m).mp lost).2.1) id
  | some s =>
    obtain ⟨record, carries⟩ := minds.ejected found
    have owners := deviceOf_served (ejectDisk_served h d)
    obtain ⟨leases, records⟩ := minds.leased
    obtain ⟨leases', steps⟩ := Follows.ejectDisk h d leases
    have there := record?_of_driveState? found
    refine of_record record ⟨leases', records.moves steps⟩ (fun id connected => ?own)
      (minds.connected s.record there) (fun _ => rfl) (fun path here => ?real)
      (fun id m => ?overlooked) fun id connected full => ?refused
    case own => exact (owners id).trans (minds.own _ id there connected)
    case real => cases here
    case overlooked =>
      have unkept : ¬(s.access = some id ∧ none = some m.location) :=
        fun here => Option.some_ne_none _ here.2.symm
      rw [owners, and_iff_left unkept, carries]
      show past.overlooked id m ∧ (h.ejectDisk d).2.Carries id m ↔ _
      rw [carries, minds.overlooked]
      tauto
    case refused => cases full

theorem elsewhere (minds : Minds d past h) (mounts : h'.files.mounts = h.files.mounts)
    (accesses : h'.accesses = h.accesses) (record : h'.record? d = h.record? d) :
    Minds d past h' := by
  have after := minds.aside (.elsewhere mounts accesses record)
  refine after.retold after.connected (fun id m => ?_) id
  refine (and_iff_left_of_imp fun lost => ?_).symm
  exact (carries_elsewhere mounts accesses).mpr ((minds.overlooked id m).mp lost).2.1

/-- By whether the drive is connected when the disk comes in. -/
theorem insert (minds : Minds d past h) (disk : Disk) :
    Minds d (past.refilled d (h.ejectDisk d).2) (h.insertDisk d disk).2 := by
  have emptied := minds.eject
  have lost : ∀ id m, (past.refilled d (h.ejectDisk d).2).overlooked id m ↔
      (h.ejectDisk d).2.deviceOf id = some d ∧ (h.ejectDisk d).2.Carries id m := by
    intro id m
    refine (emptied.overlooked id m).trans (and_congr_right fun _ => and_iff_left ?_)
    rintro ⟨r, there, -, here⟩
    rw [minds.pathless there] at here
    cases here
  obtain ⟨leases, records⟩ := emptied.leased
  rcases insertDisk_cases h d disk with
    ⟨found, same⟩ | ⟨s, found, ⟨idle, same⟩ | ⟨access, connected, same⟩⟩ <;> rw [same]
  · exact absent records found lost
  · obtain ⟨mounts, accesses⟩ := setState_same (h.ejectDisk d).2 d
      (.drive { s with disk := some disk })
    have there := record?_of_driveState? found
    have record := record?_of_driveState?
      (driveState?_setState found { s with disk := some disk })
    refine unconnected (records.elsewhere mounts accesses) (fun r here => ?_) fun id m => ?_
    · rw [record] at here
      cases here
      have path : s.record.path = none := minds.pathless there
      exact ⟨idle, path, (emptied.connected s.record there).symm.trans idle⟩
    · rw [deviceOf_elsewhere accesses, carries_setState]
      exact lost id m
  · obtain ⟨mounts, accesses, states⟩ := driveEvent_same
      ((h.ejectDisk d).2.mountDrive d { s with disk := some disk } access) access "disk"
    have there := record?_of_driveState? found
    have own := emptied.own _ access there connected
    have filled : DriveState.access { s with disk := some disk } = some access := connected
    have mounted := (mountDrive records found own filled).elsewhere mounts accesses
      (record?_congr states d)
    refine mounted.retold (fun r here => ?_) lost fun refuses =>
      ⟨_, access, there, connected, refuses⟩
    exact (mounted.connected r here).trans (connected.symm.trans (emptied.connected _ there))

end Minds

/-! ## Runs -/

section Runs

variable {d : DeviceId} {past : Past} {h : Host} {s : DriveState}

theorem after_connect (found : h.driveState? d = some s) (id : AccessId) :
    h.after (.ask (.device d (.connect id))) =
      h.mountDrive d { s with access := some id } id := by
  unfold after answer deviceRequest
  simp only
  rw [state?_of_driveState? found]
  rfl

theorem after_disconnect (found : h.driveState? d = some s) :
    h.after (.ask (.device d .disconnect)) =
      h.setState d (.drive { s with access := none, mountPath := none }) := by
  unfold after answer deviceRequest
  simp only
  rw [state?_of_driveState? found]
  rfl

/-- Other devices are not connected. -/
theorem deviceRequest_absent (absent : h.driveState? d = none) (id : AccessId) :
    (h.deviceRequest d (.connect id)).2 = h ∧ (h.deviceRequest d .disconnect).2 = h := by
  unfold driveState? at absent
  unfold deviceRequest
  split
  · exact ⟨rfl, rfl⟩
  · next here =>
    rw [here] at absent
    cases absent
  · exact ⟨rfl, rfl⟩
  · exact ⟨rfl, rfl⟩
  · exact ⟨rfl, rfl⟩

namespace Minds

theorem connect (minds : Minds d past h) {id : AccessId} (own : h.deviceOf id = some d) :
    Minds d (Past.turned d h (some id) (h.Refuses id))
      (h.after (.ask (.device d (.connect id)))) := by
  obtain ⟨leases, records⟩ := minds.leased
  cases found : h.driveState? d with
  | none =>
    rw [show h.after (.ask (.device d (.connect id))) = h from (deviceRequest_absent found id).1]
    exact absent records found fun _ _ => Iff.rfl
  | some s =>
    rw [after_connect found]
    have connected : DriveState.access { s with access := some id } = some id := rfl
    exact mountDrive records found own connected

theorem disconnect (minds : Minds d past h) :
    Minds d (Past.turned d h none False) (h.after (.ask (.device d .disconnect))) := by
  obtain ⟨leases, records⟩ := minds.leased
  cases found : h.driveState? d with
  | none =>
    rw [show h.after (.ask (.device d .disconnect)) = h from
      (deviceRequest_absent found ⟨.top, 0⟩).2]
    exact absent records found fun _ _ => Iff.rfl
  | some s =>
    rw [after_disconnect found]
    obtain ⟨mounts, accesses⟩ := setState_same h d
      (.drive { s with access := none, mountPath := none })
    have same := records.elsewhere mounts accesses
    refine unconnected same (fun r there => ?_) fun id m => ?_
    · rw [record?_of_driveState? (driveState?_setState found _)] at there
      cases there
      exact ⟨rfl, rfl, rfl⟩
    · rw [deviceOf_elsewhere accesses, carries_setState]
      exact Iff.rfl

end Minds

/-- By induction on the run, one case for each kind of step. -/
theorem Tended.minds (tended : Tended d past h) : Minds d past h := by
  induction tended with
  | start records unused idle => exact .start records unused idle
  | aside _ aside ih => exact ih.aside aside
  | connect _ id own ih => exact ih.connect own
  | disconnect _ ih => exact ih.disconnect
  | eject _ ih => exact ih.eject
  | insert _ disk ih => exact ih.insert disk

end Runs

end DeviceBridge.Host
