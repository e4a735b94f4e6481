import DeviceBridge.Proofs.Files.Ownership
import DeviceBridge.Proofs.Registry.Making

/-
  What the accesses of a drive have mounted. An access carries a mount if it records the location
  and the mount is in the table (`Carries`); every service and every operation of a drive says here
  what it does to that. A drive goes by three things: the contents of its disk, the access through
  which it was last attached, and the path that it keeps (`record?`).
-/

namespace DeviceBridge.Host

variable {h h' : Host} {id : AccessId} {m : MountPoint}

/-! ## Accesses -/

/-- The device that an access was made for. -/
def deviceOf (h : Host) (id : AccessId) : Option DeviceId := (h.access? id).map (·.device)

/-- Whose an access is was settled when it was made. -/
theorem deviceOf_congr (same : h'.makes = h.makes) (id : AccessId) :
    h'.deviceOf id = h.deviceOf id := by
  have made := congrArg (List.find? fun a => a.id = id) same
  rw [← access?_made, ← access?_made] at made
  have devices := congrArg (Option.map Access.device) made
  rwa [Option.map_map, Option.map_map] at devices

theorem deviceOf_served (served : Served h h') (id : AccessId) :
    h'.deviceOf id = h.deviceOf id := deviceOf_congr (makes_congr served.accesses) id

theorem deviceOf_elsewhere (accesses : h'.accesses = h.accesses) (id : AccessId) :
    h'.deviceOf id = h.deviceOf id := by
  unfold deviceOf access?
  rw [accesses]

/-- Whose an access is stays as it is. -/
def SameOwners (h h' : Host) : Prop :=
  ∀ id d, h.deviceOf id = some d → h'.deviceOf id = some d

namespace SameOwners

theorem ofEq (same : ∀ id, h'.deviceOf id = h.deviceOf id) : SameOwners h h' :=
  fun id _ known => (same id).trans known

theorem trans {a b c : Host} (ab : SameOwners a b) (bc : SameOwners b c) : SameOwners a c :=
  fun id d known => bc id d (ab id d known)

theorem ofMakesMore (more : MakesMore h h') : SameOwners h h' := by
  intro id d known
  obtain ⟨a, found, rfl⟩ := Option.map_eq_some_iff.mp known
  obtain ⟨a', later, same⟩ := more.access? found
  unfold deviceOf
  have device : a'.device = a.device := (congrArg Access.device same :)
  rw [later, Option.map_some, device]

theorem kept : Kept SameOwners where
  trans := trans
  served served := ofMakesMore (MakesMore.kept.served served)
  enqueue h completion body := ofMakesMore (MakesMore.kept.enqueue h completion body)
  exchange h side device := ofMakesMore (MakesMore.exchange h side device)
  linkAll h := ofMakesMore (MakesMore.kept.linkAll h)
  unlinkAll h := ofMakesMore (MakesMore.kept.unlinkAll h)
  close h id := ofMakesMore (MakesMore.kept.close h id)

end SameOwners

/-! ## What an access carries -/

/-- An access carries a mount: it records the location, and that is what is mounted there. -/
def Carries (h : Host) (id : AccessId) (m : MountPoint) : Prop :=
  m ∈ h.files.mounts ∧ m.location ∈ h.mounted id

theorem Carries.known (carries : h.Carries id m) : ∃ d, h.deviceOf id = some d := by
  obtain ⟨-, mine⟩ := carries
  unfold mounted at mine
  unfold deviceOf
  cases found : h.access? id with
  | none =>
    rw [found] at mine
    exact absurd mine List.not_mem_nil
  | some a => exact ⟨a.device, rfl⟩

theorem carries_congr (mounts : h'.files.mounts = h.files.mounts)
    (kept : ∀ id, h'.mounted id = h.mounted id) : h'.Carries id m ↔ h.Carries id m := by
  unfold Carries
  rw [mounts, kept]

theorem carries_elsewhere (mounts : h'.files.mounts = h.files.mounts)
    (accesses : h'.accesses = h.accesses) : h'.Carries id m ↔ h.Carries id m := by
  refine carries_congr mounts fun id => ?_
  unfold mounted access?
  rw [accesses]

namespace Records

variable {leases : List Lease} (records : Records h leases)
include records

theorem carries_iff : h.Carries id m ↔ ⟨some id, m⟩ ∈ leases := by
  constructor
  · rintro ⟨inside, mine⟩
    rw [records.table] at inside
    obtain ⟨⟨owner, m⟩, here, rfl⟩ := List.mem_map.mp inside
    have owned : owner = some id := (records.owner here).mp mine
    rwa [owned] at here
  · intro here
    refine ⟨?_, (records.owner here).mpr rfl⟩
    rw [records.table]
    exact List.mem_map_of_mem here

/-- What is carried is mounted, in normal form, by an access that is attached. -/
theorem of_carries (carries : h.Carries id m) :
    m.location ∈ h.files.locations ∧ Path.normalize m.location = m.location ∧
      h.isAttached id = true := by
  refine ⟨List.mem_map_of_mem carries.1, records.normal_mounted id _ carries.2, ?_⟩
  refine Bool.of_not_eq_false fun shut => ?_
  have mine := carries.2
  rw [records.closed id shut] at mine
  exact List.not_mem_nil mine

theorem carries_mountFor (owner : AccessId) (location drive : String) (backing : Backing) :
    (h.mountFor owner location backing drive).2.Carries id m ↔ h.Carries id m ∨
      id = owner ∧ ∃ path, (h.mountFor owner location backing drive).1 = .ok (some path) ∧
        m = ⟨drive, path, backing⟩ := by
  by_cases made : ∃ path, (h.mountFor owner location backing drive).1 = .ok (some path)
  · obtain ⟨path, ok⟩ := made
    have after := records.mount (Prod.ext ok rfl)
    rw [after.carries_iff, records.carries_iff, List.mem_append, List.mem_singleton]
    refine or_congr_right ⟨?_, ?_⟩
    · rintro ⟨⟩
      exact ⟨rfl, path, ok, rfl⟩
    · rintro ⟨rfl, path', ok', rfl⟩
      rw [ok] at ok'
      cases ok'
      rfl
  · rw [mountFor_failed (not_exists.mp made)]
    refine (or_iff_left ?_).symm
    rintro ⟨-, path, ok, -⟩
    exact made ⟨path, ok⟩

theorem carries_unmountFor (owner : AccessId) (location : String) :
    (h.unmountFor owner location).2.Carries id m ↔ h.Carries id m ∧
      ¬(id = owner ∧ m.location = Path.normalize location) := by
  by_cases made : (h.unmountFor owner location).1 = .ok ()
  · have after := records.unmount (Prod.ext made rfl)
    rw [after.carries_iff, records.carries_iff, List.mem_filter, decide_eq_true_eq]
    refine and_congr_right fun _ => not_congr (and_congr_left fun _ => ?_)
    exact Option.some_inj
  · rw [unmountFor_failed made]
    refine (and_iff_left_of_imp fun carries => ?_).symm
    -- an unmount fails for want of services or of a mount there
    rintro ⟨rfl, there⟩
    obtain ⟨-, -, attached⟩ := records.of_carries carries
    obtain ⟨a, found⟩ := access?_of_isAttached attached
    have mine : Path.normalize location ∈ a.mounts := by
      rw [← there, ← mounted_of_access? found]
      exact carries.2
    refine made ?_
    unfold unmountFor
    rw [attached, found]
    simp only [Bool.not_true, Bool.false_eq_true, if_false, if_pos mine]

theorem carries_close (gone : AccessId) :
    (h.close gone).Carries id m ↔ h.Carries id m ∧ id ≠ gone := by
  rw [(records.close gone).carries_iff, records.carries_iff, List.mem_filter, decide_eq_true_eq]
  exact and_congr_right fun _ => not_congr Option.some_inj

end Records

/-! ## The state of a drive -/

end DeviceBridge.Host

namespace DeviceBridge

/-- What a drive goes by. The label of its disk does not matter. -/
structure DriveRecord where
  contents : Option VolumeId
  access : Option AccessId
  path : Option String

def DriveState.record (s : DriveState) : DriveRecord :=
  ⟨s.disk.map (·.contents), s.access, s.mountPath⟩

theorem DriveState.full_of_contents {s : DriveState} {contents : VolumeId}
    (inside : s.record.contents = some contents) : s.disk.isSome = true := by
  obtain ⟨disk, there, -⟩ := Option.map_eq_some_iff.mp inside
  exact Option.isSome_iff_exists.mpr ⟨disk, there⟩

namespace Host

variable {h h' : Host} {id : AccessId} {m : MountPoint} {d other : DeviceId} {s : DriveState}

def record? (h : Host) (d : DeviceId) : Option DriveRecord := (h.driveState? d).map (·.record)

theorem record?_of_driveState? (found : h.driveState? d = some s) :
    h.record? d = some s.record := by
  unfold record?
  rw [found]
  rfl

theorem state?_of_driveState? (found : h.driveState? d = some s) :
    h.state? d = some (.drive s) := by
  unfold driveState? at found
  split at found
  · next here =>
    cases found
    exact here
  · cases found

theorem driveState?_of_state? (known : h.state? d = some (.drive s)) :
    h.driveState? d = some s := by
  unfold driveState?
  rw [known]

theorem driveState?_congr (devices : h'.devices = h.devices) (d : DeviceId) :
    h'.driveState? d = h.driveState? d := by
  unfold driveState? state? device?
  rw [devices]

theorem record?_congr (devices : h'.devices = h.devices) (d : DeviceId) :
    h'.record? d = h.record? d := by
  unfold record?
  rw [driveState?_congr devices]

theorem state?_setState {old : DeviceState} (known : h.state? d = some old) (state : DeviceState) :
    (h.setState d state).state? d = some state := by
  obtain ⟨x, found, -⟩ := Option.map_eq_some_iff.mp known
  obtain ⟨bound, -⟩ := List.getElem?_eq_some_iff.mp found
  unfold setState
  rw [found]
  unfold state? device? setDevice
  simp only [List.getElem?_set_self bound, Option.map_some]

theorem driveState?_setState (found : h.driveState? d = some s) (s' : DriveState) :
    (h.setState d (.drive s')).driveState? d = some s' := by
  unfold driveState?
  rw [state?_setState (state?_of_driveState? found)]

theorem driveState?_setState_other (h : Host) (state : DeviceState) (differs : other ≠ d) :
    (h.setState d state).driveState? other = h.driveState? other := by
  unfold setState
  split
  · have apart : d.number ≠ other.number := by
      intro same
      cases d
      cases other
      cases same
      exact differs rfl
    unfold driveState? state? device? setDevice
    simp only [List.getElem?_set_ne apart]
  · rfl

/-! ## Mounting a disk -/

/-- Nothing can be mounted at a location: something is there. -/
def Taken (h : Host) (location : String) : Prop :=
  h.files.has (Path.normalize location) = true ∨ Path.normalize location ∈ h.files.locations

/-- A disk cannot be mounted through an access: it is not attached, or all locations are taken. -/
def Refuses (h : Host) (id : AccessId) : Prop :=
  h.isAttached id = false ∨ ∀ location ∈ Drive.locations, h.Taken location

theorem mountFor_devices (h : Host) (id : AccessId) (location drive : String) (backing : Backing) :
    (h.mountFor id location backing drive).2.devices = h.devices := by
  unfold mountFor
  split
  · rfl
  · simp only
    split
    · rfl
    · split <;> rfl

theorem unmountFor_devices (h : Host) (id : AccessId) (location : String) :
    (h.unmountFor id location).2.devices = h.devices := by
  unfold unmountFor
  split
  · rfl
  · simp only
    split
    · rfl
    · split <;> rfl

theorem serve_devices (h : Host) (id : AccessId) (service : Service) :
    (h.serve id service).2.devices = h.devices := by
  cases service with
  | mount writable location files drive =>
    have mounted := mountFor_devices (h.newVolume files).2 id location drive
      (if writable then .writable (h.newVolume files).1
        else .readOnly (.volume (h.newVolume files).1))
    unfold serve
    simp only
    split <;> rename_i came <;> rw [came] at mounted <;> exact mounted
  | unmount location =>
    have unmounted := unmountFor_devices h id location
    unfold serve
    simp only
    split <;> rename_i came <;> rw [came] at unmounted <;> exact unmounted
  | queueEvent name args =>
    unfold serve
    simp only
    split <;> rfl
  | mounted | isAttached | computerId | attachmentName | available | availableAt _ => rfl

/-- A mount is refused to an access that is not attached, and where the location is taken. -/
theorem mountFor_ok_or_refused (h : Host) (id : AccessId) (location drive : String)
    (backing : Backing) :
    (∃ path, (h.mountFor id location backing drive).1 = .ok (some path)) ∨
    (h.mountFor id location backing drive = (.ok none, h) ∧ h.Taken location) ∨
    h.mountFor id location backing drive = (.error notAttached, h) ∧ h.isAttached id = false := by
  unfold mountFor
  cases h.isAttached id with
  | false => exact .inr (.inr ⟨rfl, rfl⟩)
  | true =>
    simp only [Bool.not_true, Bool.false_eq_true, if_false]
    split
    · next has => exact .inr (.inl ⟨rfl, .inl has⟩)
    · unfold FileSystem.mountAt
      simp only [Path.normalize_normalize]
      split
      · next came =>
        split at came
        · next here => exact .inr (.inl ⟨rfl, .inr here⟩)
        · cases came
      · exact .inl ⟨_, rfl⟩

/-- A disk is mounted at one location, or nothing has changed and every location was taken. By
induction on the locations. -/
theorem mountDisk_cases (h : Host) (id : AccessId) (disk : Disk) (locations : List String) :
    (∃ location path text, (h.mountFor id location (.writable disk.contents) "disk").1 =
        .ok (some path) ∧ h.mountDisk id disk locations = (some path,
          (h.mountFor id location (.writable disk.contents) "disk").2.write .debug text)) ∨
    h.mountDisk id disk locations = (none, h) ∧
      (h.isAttached id = false ∨ ∀ location ∈ locations, h.Taken location) := by
  induction locations with
  | nil => exact .inr ⟨rfl, .inr (List.forall_mem_nil _)⟩
  | cons location rest ih =>
    unfold mountDisk
    rcases mountFor_ok_or_refused h id location "disk" (.writable disk.contents) with
      ⟨path, ok⟩ | ⟨none, taken⟩ | ⟨refused, shut⟩
    · obtain ⟨after, came⟩ : ∃ after, h.mountFor id location (.writable disk.contents) "disk" =
          (.ok (some path), after) := ⟨_, Prod.ext ok rfl⟩
      rw [came]
      exact .inl ⟨location, path, _, congrArg Prod.fst came, by rw [came]⟩
    · rw [none]
      refine ih.imp_right ?_
      rintro ⟨same, why⟩
      exact ⟨same, why.imp_right fun others => List.forall_mem_cons.mpr ⟨taken, others⟩⟩
    · rw [refused]
      exact .inr ⟨rfl, .inl shut⟩

theorem mountDisk_devices (h : Host) (id : AccessId) (disk : Disk) (locations : List String) :
    (h.mountDisk id disk locations).2.devices = h.devices := by
  rcases mountDisk_cases h id disk locations with ⟨location, path, text, -, came⟩ | ⟨came, -⟩
  · rw [came]
    exact mountFor_devices h id location "disk" (.writable disk.contents)
  · rw [came]

/-- A disk is mounted where nothing was. -/
theorem mountDisk_free {disk : Disk} {locations : List String} {path : String}
    (came : (h.mountDisk id disk locations).1 = some path) : path ∉ h.files.locations := by
  rcases mountDisk_cases h id disk locations with ⟨location, found, text, ok, done⟩ | ⟨none, -⟩
  · rw [done] at came
    cases came
    exact (mountFor_ok (Prod.ext ok rfl)).2.1
  · rw [none] at came
    cases came

theorem mountDisk_refused {disk : Disk}
    (none : (h.mountDisk id disk Drive.locations).1 = none) : h.Refuses id := by
  rcases mountDisk_cases h id disk Drive.locations with ⟨location, path, text, -, done⟩ | ⟨-, why⟩
  · rw [done] at none
    cases none
  · exact why

theorem Records.carries_mountDisk {leases : List Lease} (records : Records h leases)
    (access : AccessId) (disk : Disk) (locations : List String) :
    (h.mountDisk access disk locations).2.Carries id m ↔ h.Carries id m ∨ id = access ∧
      ∃ path, (h.mountDisk access disk locations).1 = some path ∧
        m = ⟨"disk", path, .writable disk.contents⟩ := by
  rcases mountDisk_cases h access disk locations with ⟨location, path, text, ok, done⟩ | ⟨none, -⟩
  · let h₁ := (h.mountFor access location (.writable disk.contents) "disk").2
    have wrote : (h₁.write .debug text).Carries id m ↔ h₁.Carries id m := carries_elsewhere rfl rfl
    rw [done]
    refine wrote.trans ?_
    rw [records.carries_mountFor, ok]
    simp only [Except.ok.injEq]
  · rw [none]
    refine (or_iff_left ?_).symm
    rintro ⟨-, path, found, -⟩
    cases found

theorem setState_same (h : Host) (d : DeviceId) (state : DeviceState) :
    (h.setState d state).files.mounts = h.files.mounts ∧
    (h.setState d state).accesses = h.accesses := by
  unfold setState
  split <;> exact ⟨rfl, rfl⟩

theorem carries_setState (h : Host) (d : DeviceId) (state : DeviceState) :
    (h.setState d state).Carries id m ↔ h.Carries id m :=
  carries_elsewhere (setState_same h d state).1 (setState_same h d state).2

/-- The path that a drive has after its disk was to be mounted. -/
def mountedPath (h : Host) (s : DriveState) (access : AccessId) : Option String :=
  s.disk.bind fun disk => (h.mountDisk access disk Drive.locations).1

theorem mountDrive_none {s' : DriveState} (empty : s'.disk = none) (access : AccessId) :
    h.mountDrive d s' access = h.setState d (.drive { s' with mountPath := none }) := by
  unfold mountDrive
  rw [empty]

theorem mountDrive_some {s' : DriveState} {disk : Disk} (inside : s'.disk = some disk)
    (access : AccessId) : h.mountDrive d s' access =
      (h.mountDisk access disk Drive.locations).2.setState d
        (.drive { s' with mountPath := (h.mountDisk access disk Drive.locations).1 }) := by
  unfold mountDrive
  rw [inside]

theorem record?_mountDrive (found : h.driveState? d = some s) (s' : DriveState)
    (access : AccessId) : (h.mountDrive d s' access).record? d =
      some ⟨s'.disk.map (·.contents), s'.access, h.mountedPath s' access⟩ := by
  cases inside : s'.disk with
  | none =>
    rw [mountDrive_none inside, record?_of_driveState? (driveState?_setState found _)]
    simp only [DriveState.record, mountedPath, inside, Option.bind_none, Option.map_none]
  | some disk =>
    have same := (driveState?_congr (mountDisk_devices h access disk Drive.locations) d).trans found
    rw [mountDrive_some inside, record?_of_driveState? (driveState?_setState same _)]
    simp only [DriveState.record, mountedPath, inside, Option.bind_some, Option.map_some]

theorem driveState?_mountDrive_other (h : Host) (s' : DriveState) (access : AccessId)
    (differs : other ≠ d) : (h.mountDrive d s' access).driveState? other =
      h.driveState? other := by
  cases inside : s'.disk with
  | none =>
    rw [mountDrive_none inside]
    exact driveState?_setState_other h _ differs
  | some disk =>
    rw [mountDrive_some inside, driveState?_setState_other _ _ differs]
    exact driveState?_congr (mountDisk_devices h access disk Drive.locations) other

theorem Records.carries_mountDrive {leases : List Lease} (records : Records h leases)
    (d : DeviceId) (s' : DriveState) (access : AccessId) :
    (h.mountDrive d s' access).Carries id m ↔ h.Carries id m ∨ id = access ∧
      ∃ disk path, s'.disk = some disk ∧ h.mountedPath s' access = some path ∧
        m = ⟨"disk", path, .writable disk.contents⟩ := by
  cases inside : s'.disk with
  | none =>
    rw [mountDrive_none inside, carries_setState]
    refine (or_iff_left ?_).symm
    rintro ⟨-, disk, path, full, -⟩
    cases full
  | some disk =>
    rw [mountDrive_some inside, carries_setState, records.carries_mountDisk]
    simp only [mountedPath, inside, Option.bind_some, Option.some.injEq, exists_and_left,
      exists_eq_left']

/-! ## Taking a disk out -/

theorem serve_queueEvent (h : Host) (access : AccessId) (name : String) (args : List Value) :
    (h.serve access (.queueEvent name args)).2.files.mounts = h.files.mounts ∧
    (h.serve access (.queueEvent name args)).2.accesses = h.accesses ∧
    (h.serve access (.queueEvent name args)).2.devices = h.devices := by
  unfold serve
  simp only
  split <;> exact ⟨rfl, rfl, rfl⟩

theorem driveEvent_same (h : Host) (access : AccessId) (name : String) :
    (h.driveEvent access name).files.mounts = h.files.mounts ∧
    (h.driveEvent access name).accesses = h.accesses ∧
    (h.driveEvent access name).devices = h.devices :=
  serve_queueEvent h access name [.string access.side.name]

/-- Unmount the path of a drive, if it has one; a failure is logged. -/
def dropPath (h : Host) (access : AccessId) : Option String → Host
  | none => h
  | some path =>
    match h.unmountFor access path with
    | (.ok (), h) => h
    | (.error e, h) => h.write .warn ("Cannot unmount disk at " ++ path ++ ": " ++ e.message)

theorem Records.elsewhere {leases : List Lease} (records : Records h leases)
    (mounts : h'.files.mounts = h.files.mounts) (accesses : h'.accesses = h.accesses) :
    Records h' leases :=
  Records.move (Move.elsewhere mounts accesses : Move (h, leases) (h', leases)) records

theorem Records.dropPath {leases : List Lease} (records : Records h leases) (access : AccessId)
    (path : Option String) : (h.dropPath access path).devices = h.devices ∧
    ∀ id m, (h.dropPath access path).Carries id m ↔ h.Carries id m ∧
      ¬(access = id ∧ path.map Path.normalize = some m.location) := by
  unfold Host.dropPath
  cases path with
  | none =>
    refine ⟨rfl, fun id m => (and_iff_left ?_).symm⟩
    rintro ⟨-, here⟩
    cases here
  | some path =>
    have devices := unmountFor_devices h access path
    have carries : ∀ id m, (h.unmountFor access path).2.Carries id m ↔ h.Carries id m ∧
        ¬(access = id ∧ some (Path.normalize path) = some m.location) := by
      intro id m
      rw [records.carries_unmountFor, Option.some_inj, eq_comm, eq_comm (a := m.location)]
    simp only
    split
    · next came =>
      rw [came] at devices carries
      exact ⟨devices, carries⟩
    · next came =>
      rw [came] at devices carries
      exact ⟨devices, fun id m => (carries_elsewhere rfl rfl).trans (carries id m)⟩

theorem ejectDisk_absent (absent : h.driveState? d = none) : h.ejectDisk d = (none, h) := by
  unfold ejectDisk
  rw [absent]

theorem ejectDisk_empty (found : h.driveState? d = some s) (empty : s.disk = none) :
    h.ejectDisk d = (none, h) := by
  unfold ejectDisk
  rw [found]
  simp only
  rw [empty]

theorem ejectDisk_idle {disk : Disk} (found : h.driveState? d = some s)
    (inside : s.disk = some disk) (idle : s.access = none) :
    h.ejectDisk d = (some disk, h.setState d (.drive { s with disk := none })) := by
  unfold ejectDisk
  rw [found]
  simp only
  rw [inside]
  simp only
  rw [idle]

theorem ejectDisk_connected {disk : Disk} {access : AccessId} (found : h.driveState? d = some s)
    (inside : s.disk = some disk) (connected : s.access = some access) : h.ejectDisk d =
      (some disk, ((h.setState d (.drive { s with disk := none, mountPath := none })).dropPath
        access s.mountPath).driveEvent access "disk_eject") := by
  obtain ⟨_, path, _⟩ := s
  cases inside
  cases connected
  unfold ejectDisk
  rw [found]
  cases path <;> rfl

/-- When the old disk is out, a drive that is not connected takes the new one, and a drive that is
connected mounts it. -/
theorem insertDisk_cases (h : Host) (d : DeviceId) (disk : Disk) :
    ((h.ejectDisk d).2.driveState? d = none ∧ (h.insertDisk d disk).2 = (h.ejectDisk d).2) ∨
    ∃ s, (h.ejectDisk d).2.driveState? d = some s ∧
      ((s.access = none ∧ (h.insertDisk d disk).2 =
        (h.ejectDisk d).2.setState d (.drive { s with disk := some disk })) ∨
      ∃ access, s.access = some access ∧ (h.insertDisk d disk).2 = ((h.ejectDisk d).2.mountDrive d
        { s with disk := some disk } access).driveEvent access "disk") := by
  unfold insertDisk
  simp only
  cases found : (h.ejectDisk d).2.driveState? d with
  | none => exact .inl ⟨rfl, rfl⟩
  | some s =>
    refine .inr ⟨s, rfl, ?_⟩
    simp only
    cases connected : s.access with
    | none => exact .inl ⟨rfl, rfl⟩
    | some access => exact .inr ⟨access, rfl, rfl⟩

/-- What ejecting does: the disk comes out, the drive forgets its path if it is connected, and the
mount at that path is taken away. -/
theorem Records.ejectDisk {leases : List Lease} (records : Records h leases)
    (found : h.driveState? d = some s) :
    (h.ejectDisk d).1 = s.disk ∧
    (h.ejectDisk d).2.record? d = some ⟨none, s.access,
      if s.disk.isSome ∧ s.access.isSome then none else s.mountPath⟩ ∧
    (∀ other ≠ d, (h.ejectDisk d).2.driveState? other = h.driveState? other) ∧
    ∀ id m, (h.ejectDisk d).2.Carries id m ↔ h.Carries id m ∧
      ¬(s.disk.isSome ∧ s.access = some id ∧
        s.mountPath.map Path.normalize = some m.location) := by
  cases inside : s.disk with
  | none =>
    rw [ejectDisk_empty found inside, record?_of_driveState? found]
    refine ⟨rfl, ?_, fun _ _ => rfl, fun id m => (and_iff_left ?_).symm⟩
    · rw [DriveState.record, inside]
      rfl
    · rintro ⟨full, -⟩
      cases full
  | some disk =>
    cases connected : s.access with
    | none =>
      rw [ejectDisk_idle found inside connected,
        record?_of_driveState? (driveState?_setState found _)]
      refine ⟨rfl, ?_, fun _ differs => driveState?_setState_other h _ differs, fun id m => ?_⟩
      · rw [DriveState.record, connected]
        rfl
      · refine (carries_setState h d _).trans (and_iff_left ?_).symm
        rintro ⟨-, mine, -⟩
        cases mine
    | some access =>
      rw [ejectDisk_connected found inside connected]
      let h₁ := h.setState d (.drive { s with disk := none, mountPath := none })
      let h₂ := h₁.dropPath access s.mountPath
      have records₁ : Records h₁ leases :=
        records.elsewhere (setState_same h d _).1 (setState_same h d _).2
      obtain ⟨devices, carries⟩ := records₁.dropPath access s.mountPath
      obtain ⟨mounts, accesses, states⟩ := driveEvent_same h₂ access "disk_eject"
      have same (other : DeviceId) : (h₂.driveEvent access "disk_eject").driveState? other =
          h₁.driveState? other := driveState?_congr (states.trans devices) other
      refine ⟨rfl, ?_, fun other differs => ?_, fun id m => ?_⟩
      · rw [record?_of_driveState? ((same d).trans (driveState?_setState found _)),
          DriveState.record, connected]
        rfl
      · exact (same other).trans (driveState?_setState_other h _ differs)
      · rw [carries_elsewhere mounts accesses, carries id m,
          carries_setState, Option.some_inj]
        simp only [Option.isSome_some, true_and]

end Host

end DeviceBridge
