import DeviceBridge.Proofs.Drives.Ejection
import DeviceBridge.Proofs.Drives.Operations
import DeviceBridge.Proofs.Files.Resolution

/-
  Three records of one fact. Where the disk of a drive is mounted is kept by the drive, by the
  access through which it is attached, and by the mount table. They are changed by hooks, by inserts
  and ejects of the host, and by tasks of the main thread that may run long after the drive has been
  detached (`Operated`). While the drive sits at one side at most, and hooks and tasks keep to their
  own, the three agree whenever nothing is under way (`drive_coherent`).
-/

namespace DeviceBridge.Host

variable {d : DeviceId} {h : Host} {seen : Option Host} {depth : Nat} {id : AccessId}

/-! ## Operations -/

/-- A computer on which nothing was installed yet, nothing is mounted, and no task waits. -/
structure Prepared (d : DeviceId) (first : Host) : Prop where
  fresh : first.Fresh
  unmounted : first.files.mounts = []
  idle : ∀ other r, first.record? other = some r → r.access = none ∧ r.path = none
  hosted : Hosted d first
  waiting : first.tasks.waiting = []

/-- What is done with a drive and all around it, one thing after the other, with the host on which
the disk of the drive was last to be mounted: commands, as long as the drive sits at one side at
most; inserts and ejects; calls that make a task wait, and turns of the main thread, which runs the
tasks; and mounts of the host itself. -/
inductive Operated (depth : Nat) (d : DeviceId) (first : Host) : Option Host → Host → Prop where
  | start : Operated depth d first none first
  | command {seen : Option Host} {h : Host} {s : Lifecycle} {c : Command}
      (before : Operated depth d first seen h) (sim : h.Simulates s) (has : h.Has c)
      (alone : (h.perform (Program.run depth) c).2.Alone d) :
      Operated depth d first (h.offered depth d seen (s.step c).1)
        (h.perform (Program.run depth) c).2
  | insert {seen : Option Host} {h : Host} (before : Operated depth d first seen h)
      (other : DeviceId) (disk : Disk) :
      Operated depth d first (if other = d then some (h.ejectDisk d).2 else seen)
        (h.insertDisk other disk).2
  | eject {seen : Option Host} {h : Host} (before : Operated depth d first seen h)
      (other : DeviceId) : Operated depth d first seen (h.ejectDisk other).2
  | call {seen : Option Host} {h : Host} (before : Operated depth d first seen h)
      (other : DeviceId) {contexts : List HostType} {t : Trampoline}
      (adapted : Drive.ejectMethod.adapter? contexts = some t.adapter)
      {values : List HostObject} (fitting : ContextValues contexts values) (args : Arguments) :
      Operated depth d first seen ((t.apply (.device .drive other) values args).run depth h).2
  | tick {seen : Option Host} {h : Host} (before : Operated depth d first seen h) :
      Operated depth d first seen (h.tick depth).2
  | mount {seen : Option Host} {h : Host} (before : Operated depth d first seen h)
      {label location : String} {backing : Backing} {files : FileSystem}
      (done : h.files.mountAt label location backing = (.ok (), files)) :
      Operated depth d first seen { h with files }

theorem Coherent.start {first : Host} (prepared : Prepared d first) : Coherent d none first := by
  have fresh := prepared.fresh
  have keeping : Tended d Past.none first ∧ first.Wired := by
    have unused (id : AccessId) : first.deviceOf id = none := by
      unfold deviceOf access?
      rw [fresh.accesses]
      rfl
    refine ⟨.start (.fresh fresh prepared.unmounted) (fun id own => ?_) (prepared.idle d), ?_⟩
    · rw [unused] at own
      cases own
    · intro other r id found connected
      rw [(prepared.idle other r found).1] at connected
      cases connected
  have ready := fresh.ready (prepared.hosted.quiet 0)
  refine ⟨⟨.fresh, ready.simulates, ready.backed⟩, ?_, none, ?_, fun id => ?_⟩
  · intro side other id access sits
    rw [fresh.slots] at sits
    cases sits
  · refine ⟨⟨_, keeping.1, rfl, fun _ _ => id, False.elim⟩, nofun, keeping.2, prepared.hosted, ?_⟩
    rw [prepared.waiting]
    exact fun _ waits => absurd waits List.not_mem_nil
  · rw [ready.simulates.isAttached_iff]
    exact iff_of_false nofun fun both => Lifecycle.not_attached_of_rests rfl id both.2

/-- By induction on the operations. -/
theorem Operated.coherent {first : Host} (operated : Operated depth d first seen h)
    (prepared : Prepared d first) : Coherent d seen h := by
  induction operated with
  | start => exact .start prepared
  | command _ sim has alone ih => exact ih.command sim has alone
  | eject _ other ih => exact ih.eject other
  | call _ other adapted fitting args ih => exact ih.call other adapted fitting args depth
  | tick _ ih => exact ih.runTasks depth _
  | mount _ done ih => exact ih.mount done
  | insert _ other disk ih =>
    by_cases mine : other = d
    · subst mine
      rw [if_pos rfl]
      exact ih.insert disk
    · rw [if_neg mine]
      exact ih.insertOther mine disk

/-! ## Agreement -/

namespace Records

variable {leases : List Lease} (records : Records h leases)
include records

theorem located : h.files.Located := by
  refine ⟨fun m here => ?_, ?_⟩
  · rw [records.table] at here
    obtain ⟨l, leased, rfl⟩ := List.mem_map.mp here
    exact records.normal l leased
  · rw [records.locations]
    exact records.once

theorem mounted_nodup (id : AccessId) : (h.mounted id).Nodup := by
  rw [records.recorded]
  exact records.once.sublist (List.filter_sublist.map _)

theorem carries_of_mounted {path : String} (here : path ∈ h.mounted id) :
    ∃ m, m.location = path ∧ h.Carries id m := by
  obtain ⟨m, leased, there, -⟩ := records.mount_of_mounted here
  exact ⟨m, there, records.carries_iff.mpr leased⟩

/-- What is mounted somewhere is what the location resolves to. -/
theorem resolve_carried {m : MountPoint} (carries : h.Carries id m) :
    h.files.resolve m.location = some m := by
  have serves : h.files.Serves m.location m := ⟨carries.1, List.prefix_rfl, fun _ _ above => above⟩
  have resolved := (FileSystem.resolve_eq_some_iff records.located).mpr serves
  rwa [records.normal_mounted id _ carries.2] at resolved

end Records

namespace Poised

variable {seat : Option AccessId} {s : DriveState} (poised : Poised d seat seen h)
  (found : h.driveState? d = some s)
include poised found

theorem access_kept : s.access = seat := poised.access (record?_of_driveState? found)

/-- What an access of the drive has mounted is at the path, and the drive is connected through
it. -/
theorem mounted_kept {path : String} (own : h.deviceOf id = some d)
    (here : path ∈ h.mounted id) : seat = some id ∧ s.mountPath = some path := by
  obtain ⟨leases, records⟩ := poised.records
  obtain ⟨m, rfl, carries⟩ := records.carries_of_mounted here
  obtain ⟨mine, recorded⟩ := poised.carried own carries
  exact ⟨mine, ((recorded_iff (record?_of_driveState? found) id m.location).mp recorded).2⟩

/-- An access through which the drive is not connected has mounted nothing. -/
theorem mounted_elsewhere (own : h.deviceOf id = some d) (differs : seat ≠ some id) :
    h.mounted id = [] :=
  List.eq_nil_iff_forall_not_mem.mpr fun _ here =>
    differs (poised.mounted_kept found own here).1

theorem mounted_nil (keeps : s.mountPath = none) (own : h.deviceOf id = some d) :
    h.mounted id = [] := by
  refine List.eq_nil_iff_forall_not_mem.mpr fun path here => ?_
  rw [(poised.mounted_kept found own here).2] at keeps
  cases keeps

theorem mounted_singleton {path : String} (keeps : s.mountPath = some path)
    (own : h.deviceOf id = some d) (here : path ∈ h.mounted id) : h.mounted id = [path] := by
  obtain ⟨leases, records⟩ := poised.records
  refine List.perm_singleton.mp ((List.perm_ext_iff_of_nodup (records.mounted_nodup id)
    (List.nodup_singleton path)).mpr fun other => ?_)
  rw [List.mem_singleton]
  constructor
  · intro there
    exact Option.some.inj ((poised.mounted_kept found own there).2.symm.trans keeps)
  · rintro rfl
    exact here

end Poised

/-- In every state that commands, inserts, ejects, calls and turns of the main thread lead to,
where a call makes a task wait that ejects a disk at any time later: If the drive keeps a path, a
disk is in it, the access of the drive is attached, the path is the only location that the access
has mounted, no other access of the drive has mounted anything, and the path resolves to the
contents of the disk. If it keeps none, its accesses have mounted nothing; and if a disk is in it
and the drive is attached, then all locations of a disk were taken when it was last to be mounted.
That was when the disk was put in, or when the drive was attached by a command, which does just what
the life cycle says. -/
theorem drive_coherent {first : Host} (prepared : Prepared d first)
    (operated : Operated depth d first seen h) {s : DriveState}
    (found : h.driveState? d = some s) :
    (∀ path, s.mountPath = some path → ∃ id disk, s.disk = some disk ∧ s.access = some id ∧
      h.deviceOf id = some d ∧ h.isAttached id = true ∧ h.mounted id = [path] ∧
      (∀ other, other ≠ id → h.deviceOf other = some d → h.mounted other = []) ∧
      h.files.resolve path = some ⟨"disk", path, .writable disk.contents⟩) ∧
    (s.mountPath = none → (∀ id, h.deviceOf id = some d → h.mounted id = []) ∧
      ∀ id, h.deviceOf id = some d → h.isAttached id = true → s.disk.isSome →
        ∃ host, seen = some host ∧ ∀ location ∈ Drive.locations, host.Taken location) ∧
    (∀ id, h.deviceOf id = some d → (s.access = some id ↔ h.isAttached id = true)) ∧
    ∃ life, h.Simulates life ∧ ∀ c, h.Has c → ∃ h', h.perform (Program.run depth) c = (.ok (), h') ∧
      h.playAll depth (life.step c).1 = some h' := by
  have coherent := operated.coherent prepared
  obtain ⟨seat, poised, sits⟩ := coherent.poised
  obtain ⟨past, tended, -, -, refused⟩ := poised.tended
  obtain ⟨leases, records⟩ := poised.records
  have access := poised.access_kept found
  refine ⟨fun path keeps => ?_, fun keeps => ⟨fun id own => poised.mounted_nil found keeps own,
    fun id own opened full => ?_⟩, fun id own => ?_, ?_⟩
  · obtain ⟨id, disk, mine, inside, own, carries, -⟩ := tended.minds.path_real found keeps
    refine ⟨id, disk, inside, mine, own, (records.of_carries carries).2.2,
      poised.mounted_singleton found keeps own carries.2, fun other differs theirs => ?_,
      records.resolve_carried carries⟩
    refine poised.mounted_elsewhere found theirs fun there => differs ?_
    exact Option.some.inj (there.symm.trans (access.symm.trans mine))
  · have mine : s.access = some id := access.trans ((sits id).mpr ⟨own, opened⟩)
    rcases tended.minds.no_path found full keeps with alone | turned
    · rw [mine] at alone
      cases alone
    · exact refused turned
  · rw [access, sits]
    exact and_iff_right own
  · obtain ⟨life, sim, -⟩ := coherent.table
    refine ⟨life, sim, fun c has => ?_⟩
    obtain ⟨h', performed, played, -⟩ := perform_plays (coherent.ready sim depth) c has
    exact ⟨h', performed, played⟩

/-! ## A drive that is taken out too early -/

/-- A drive with a disk. -/
def caddy : Device := Drive.new (some ⟨7, none, 0⟩)

def caddyFirst : Host := (((Host.new Config.default).newVolume []).2.addDevice caddy).2

/-- The method that ejects the disk, as it is built for devices. -/
def caddyEject : Trampoline :=
  ⟨⟨26⟩, "ejectDisk", "DiskDrive", 0, [], Drive.ejectMethod.body, some 0⟩

/-- A script calls the method while the drive is attached on the left; the drive is taken out before
the task runs. -/
def caddyCalled : Host :=
  ((caddyEject.apply (.device .drive ⟨0⟩) [.context, .access ⟨.left, 0⟩] .empty).run 1
    ([Command.set .left (some ⟨0⟩), .start].foldl (fun h c => (h.perform (Program.run 1) c).2)
      caddyFirst)).2

def caddyTicked : Host := ((caddyCalled.perform (Program.run 1) (.set .left none)).2.tick 1).2

/-- The disk is put in again, and something else is mounted at the first location. -/
def caddyRefilled : Host := (caddyTicked.insertDisk ⟨0⟩ ⟨7, none, 0⟩).2

def caddyShared : Host :=
  { caddyRefilled with files := (caddyRefilled.files.mountAt "logs" "disk" (.writable 0)).2 }

/-- The drive is installed once more. -/
def caddyLast : Host := (caddyShared.perform (Program.run 1) (.set .left (some ⟨0⟩))).2

theorem alone_of_left (elsewhere : ∀ side, side = .left ∨ h.slots side = none) : h.Alone d := by
  intro side other id access sits too _ _
  have here {side : Side} {id : AccessId} (sits : h.slots side = some id) : side = .left := by
    refine (elsewhere side).resolve_right fun empty => ?_
    rw [empty] at sits
    cases sits
  rw [here sits, here too]

theorem caddy_prepared : Prepared ⟨0⟩ caddyFirst := by
  have only {other : DeviceId} {x : Device} (found : caddyFirst.device? other = some x) :
      x = caddy := by
    obtain ⟨n⟩ := other
    cases n with
    | zero =>
      cases found
      rfl
    | succ n => cases found
  refine ⟨⟨rfl, rfl, rfl⟩, rfl, fun other r found => ?_, ⟨fun x found => ?_, fun x found => ?_,
    fun x inside t device access => ?_⟩, rfl⟩
  · cases known : caddyFirst.device? other with
    | none =>
      rw [record?, driveState?, state?, known] at found
      cases found
    | some x =>
      rw [record?, driveState?, state?, known, only known] at found
      cases found
      exact ⟨rfl, rfl⟩
  · rw [only found]
    rfl
  · rw [only found]
    rfl
  · rw [List.mem_singleton.mp inside]
    cases t with
    | attach =>
      refine ⟨⟨⟨rfl, rfl⟩, ?_⟩, fun _ => trivial⟩
      rintro other ⟨⟩
    | detach =>
      refine ⟨⟨trivial, ?_⟩, fun _ => trivial⟩
      rintro other ⟨⟩
      rfl

/-- The run goes on with any command that leaves the other sides empty. -/
theorem Operated.performed {first : Host} (operated : Operated depth d first seen h)
    (prepared : Prepared d first) {c : Command} (has : h.Has c)
    (elsewhere : ∀ side, side = .left ∨ (h.perform (Program.run depth) c).2.slots side = none) :
    ∃ seen', Operated depth d first seen' (h.perform (Program.run depth) c).2 := by
  obtain ⟨life, sim, -⟩ := (operated.coherent prepared).table
  exact ⟨_, operated.command sim has (alone_of_left elsewhere)⟩

theorem caddy_operated : ∃ seen, Operated 1 ⟨0⟩ caddyFirst seen caddyLast := by
  have prepared := caddy_prepared
  have first : Operated 1 ⟨0⟩ caddyFirst none caddyFirst := .start
  obtain ⟨_, installed⟩ := first.performed prepared (c := .set .left (some ⟨0⟩)) rfl
    fun side => by cases side <;> first | exact .inl rfl | exact .inr rfl
  obtain ⟨_, started⟩ := installed.performed prepared (c := .start) trivial
    fun side => by cases side <;> first | exact .inl rfl | exact .inr rfl
  have fitting : ContextValues [.context, .access] [.context, .access ⟨.left, 0⟩] := by
    refine ⟨rfl, fun v here typed => ?_⟩
    rcases List.mem_pair.mp here with rfl | rfl
    · rfl
    · cases typed
  have called : Operated 1 ⟨0⟩ caddyFirst _ caddyCalled :=
    started.call ⟨0⟩ (t := caddyEject) rfl fitting .empty
  obtain ⟨_, removed⟩ := called.performed prepared (c := .set .left none) trivial
    fun side => by cases side <;> first | exact .inl rfl | exact .inr rfl
  have refilled : Operated 1 ⟨0⟩ caddyFirst _ caddyRefilled :=
    removed.tick.insert ⟨0⟩ ⟨7, none, 0⟩
  have done : caddyRefilled.files.mountAt "logs" "disk" (.writable 0) = (.ok (), _) :=
    Prod.ext rfl rfl
  have shared : Operated 1 ⟨0⟩ caddyFirst _ caddyShared := refilled.mount done
  exact shared.performed prepared (c := .set .left (some ⟨0⟩)) rfl
    fun side => by cases side <;> first | exact .inl rfl | exact .inr rfl

/-- The late task ejects the disk from a drive that is not attached; and when the drive is attached
anew, its disk is found at the second location. -/
theorem drive_coherent_caddy :
    (caddyCalled.files.resolve "disk").isSome ∧
    (∃ s, caddyTicked.driveState? ⟨0⟩ = some s ∧ s.disk.isNone ∧ s.access = none) ∧
    ∃ id disk, caddyLast.isAttached id = true ∧ caddyLast.mounted id = ["disk2"] ∧
      caddyLast.files.resolve "disk2" = some ⟨"disk", "disk2", .writable disk⟩ := by
  obtain ⟨seen, operated⟩ := caddy_operated
  obtain ⟨s, found, path⟩ : ∃ s, caddyLast.driveState? ⟨0⟩ = some s ∧
      s.mountPath = some "disk2" := ⟨_, rfl, rfl⟩
  obtain ⟨keeps, -⟩ := drive_coherent caddy_prepared operated found
  obtain ⟨id, disk, -, -, -, opened, mounted, -, resolved⟩ := keeps "disk2" path
  exact ⟨rfl, ⟨_, rfl, rfl, rfl⟩, id, disk.contents, opened, mounted, resolved⟩

end DeviceBridge.Host
