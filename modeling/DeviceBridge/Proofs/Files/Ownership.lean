import DeviceBridge.Proofs.Files.Leases
import DeviceBridge.Proofs.Host.Trace

/-
  Runs and the mount table. Whatever running code does to its host is a sequence of steps of those
  that share the file system (`Follows.replay`), so what such steps keep holds after every command
  and every program, and of every host on the way, however their hooks nest. `mounts_owned`: the
  table holds the leases and each access records its own, so each location that it records carries
  just the mount that it made there, and to close the access takes away these mounts and no other.
-/

namespace DeviceBridge.Host

/-- A host that steps lead to, whatever the leases are. -/
def Follows (h h' : Host) : Prop :=
  ∀ leases : List Lease, ∃ leases', Moves (h, leases) (h', leases')

namespace Follows

theorem refl (h : Host) : Follows h h := fun leases => ⟨leases, .refl⟩

theorem trans {a b c : Host} (ab : Follows a b) (bc : Follows b c) : Follows a c := by
  intro leases
  obtain ⟨leases₁, first⟩ := ab leases
  obtain ⟨leases₂, second⟩ := bc leases₁
  exact ⟨leases₂, Relation.ReflTransGen.trans first second⟩

theorem step {h h' : Host} {next : List Lease → List Lease}
    (move : ∀ leases, Move (h, leases) (h', next leases)) : Follows h h' :=
  fun leases => ⟨next leases, .single (move leases)⟩

theorem elsewhere {h h' : Host} (mounts : h'.files.mounts = h.files.mounts)
    (accesses : h'.accesses = h.accesses) : Follows h h' :=
  step fun _ => .elsewhere mounts accesses

/-! ## Services -/

theorem mountFor (h : Host) (id : AccessId) (location : String) (backing : Backing)
    (drive : String) : Follows h (h.mountFor id location backing drive).2 := by
  by_cases made : ∃ path, (h.mountFor id location backing drive).1 = .ok (some path)
  · obtain ⟨path, ok⟩ := made
    exact step fun _ => .mount (Prod.ext ok rfl)
  · rw [mountFor_failed (not_exists.mp made)]
    exact refl h

theorem unmountFor (h : Host) (id : AccessId) (location : String) :
    Follows h (h.unmountFor id location).2 := by
  by_cases made : (h.unmountFor id location).1 = .ok ()
  · exact step fun _ => .unmount (Prod.ext made rfl)
  · rw [unmountFor_failed made]
    exact refl h

theorem setState (h : Host) (id : DeviceId) (state : DeviceState) :
    Follows h (h.setState id state) := by
  unfold Host.setState
  split
  · exact elsewhere rfl rfl
  · exact refl h

theorem serve (h : Host) (id : AccessId) (service : Service) :
    Follows h (h.serve id service).2 := by
  cases service with
  | mount writable location files drive =>
    have new : Follows h (h.newVolume files).2 := elsewhere rfl rfl
    have mounted := mountFor (h.newVolume files).2 id location
      (if writable then .writable (h.newVolume files).1
        else .readOnly (.volume (h.newVolume files).1)) drive
    unfold Host.serve
    simp only
    split
    · next came =>
      rw [came] at mounted
      exact new.trans mounted
    · next came =>
      rw [came] at mounted
      exact new.trans mounted
  | unmount location =>
    have unmounted := unmountFor h id location
    unfold Host.serve
    simp only
    split
    · next came =>
      rw [came] at unmounted
      exact unmounted
    · next came =>
      rw [came] at unmounted
      exact unmounted
  | queueEvent name args =>
    unfold Host.serve
    simp only
    split
    · exact elsewhere rfl rfl
    · exact refl h
  | mounted | isAttached | computerId | attachmentName | available | availableAt _ => exact refl h

/-! ## Devices -/

/-- By induction on the locations that are tried. -/
theorem mountDisk (access : AccessId) (disk : Disk) (locations : List String) :
    ∀ h : Host, Follows h (h.mountDisk access disk locations).2 := by
  induction locations with
  | nil => exact refl
  | cons location rest ih =>
    intro h
    have mounted := mountFor h access location (.writable disk.contents) "disk"
    unfold Host.mountDisk
    split
    · next came =>
      rw [came] at mounted
      exact mounted.trans (elsewhere rfl rfl)
    · next came =>
      rw [came] at mounted
      exact mounted.trans (ih _)
    · next came =>
      rw [came] at mounted
      exact mounted

theorem mountDrive (h : Host) (id : DeviceId) (s : DriveState) (access : AccessId) :
    Follows h (h.mountDrive id s access) := by
  unfold Host.mountDrive
  split
  · exact setState h id _
  · exact (mountDisk access _ Drive.locations h).trans (setState _ id _)

theorem ejectDisk (h : Host) (id : DeviceId) : Follows h (h.ejectDisk id).2 := by
  unfold Host.ejectDisk
  split
  · exact refl h
  · next s _ =>
    split
    · exact refl h
    · split
      · exact setState h id _
      · next access _ =>
        refine trans ?_ (serve _ access _)
        have emptied := setState h id (.drive { s with disk := none, mountPath := none })
        generalize h.setState id _ = h₁ at emptied ⊢
        split
        · exact emptied
        · next path _ =>
          have unmounted := unmountFor h₁ access path
          split
          · next came =>
            rw [came] at unmounted
            exact emptied.trans unmounted
          · next came =>
            rw [came] at unmounted
            exact (emptied.trans unmounted).trans (elsewhere rfl rfl)

theorem insertDisk (h : Host) (id : DeviceId) (disk : Disk) :
    Follows h (h.insertDisk id disk).2 := by
  have ejected := ejectDisk h id
  unfold Host.insertDisk
  simp only
  split
  · exact ejected
  · split
    · exact ejected.trans (setState _ id _)
    · next access _ =>
      exact (ejected.trans (mountDrive _ id _ access)).trans (serve _ access _)

theorem deviceRequest (h : Host) (id : DeviceId) (request : DeviceRequest) :
    Follows h (h.deviceRequest id request).2 := by
  rcases deviceRequest_cases h id request with same | ⟨_, _, -, same⟩ |
    ⟨s, -, ⟨_, -, same⟩ | ⟨-, same⟩ | ⟨-, same⟩ | ⟨access, -, same⟩⟩ <;> rw [same]
  · exact refl h
  · exact setState h id _
  · exact setState h id _
  · exact setState h id _
  · exact ejectDisk h id
  · exact mountDrive h id _ access

/-! ## Runs -/

/-- A step lemma: each single change of a run is made of steps. -/
theorem after (h : Host) (c : Change) : Follows h (h.after c) := by
  cases c with
  | ask request =>
    cases request with
    | note | queueEvent | enter | computerId | slot => exact elsewhere rfl rfl
    | service id service => exact serve h id service
    | device id request => exact deviceRequest h id request
  | enqueue | write | queueEvent => exact elsewhere rfl rfl
  | exchange side device => exact step fun _ => .exchange h _ side device
  | linkAll => exact step fun _ => .linkAll h _
  | unlinkAll => exact step fun _ => .unlinkAll h _
  | close id => exact step fun _ => .close h _ id

/-- By induction on the changes. -/
theorem replay (changes : List Change) : ∀ h : Host, Follows h (h.replay changes) := by
  induction changes with
  | nil => exact refl
  | cons c rest ih => exact fun h => (after h c).trans (ih _)

theorem run (depth : Nat) (p : Program) (h : Host) : Follows h (p.run depth h).2 := by
  rw [Program.replay_changes]
  exact replay _ h

theorem perform (depth : Nat) (command : Command) (h : Host) :
    Follows h (h.perform (Program.run depth) command).2 := by
  rw [perform_replay (Program.replay_changes depth)]
  exact replay _ h

theorem runHook (depth : Nat) (t : Transition) (h : Host) (a : Access) :
    Follows h (h.runHook (Program.run depth) t a).2 := by
  rw [runHook_replay (Program.replay_changes depth)]
  exact replay _ h

end Follows

theorem Reachable.moves {h h' : Host} {leases leases' : List Lease} (reachable : Reachable h leases)
    (steps : Moves (h, leases) (h', leases')) : Reachable h' leases' := by
  obtain ⟨start, fresh, empty, before⟩ := reachable
  exact ⟨start, fresh, empty, before.trans steps⟩

/-! ## Ownership -/

namespace Records

variable {h : Host} {leases : List Lease} (records : Records h leases)
include records

/-- No other lease has the location of a lease. -/
theorem alone {l : Lease} (here : l ∈ leases) :
    leases.filter (·.location = l.location) = [l] := by
  have all : ∀ other ∈ leases.filter (·.location = l.location), other = l := by
    intro other there
    obtain ⟨there, same⟩ := List.mem_filter.mp there
    exact List.inj_on_of_nodup_map records.once there here (of_decide_eq_true same)
  have same := List.eq_replicate_of_mem all
  have distinct := (List.Nodup.of_map _ records.once).filter (·.location = l.location)
  have among : l ∈ leases.filter (·.location = l.location) :=
    List.mem_filter.mpr ⟨here, decide_eq_true rfl⟩
  have most : (leases.filter (·.location = l.location)).length ≤ 1 := by
    rw [same] at distinct
    exact List.nodup_replicate.mp distinct
  have one : (leases.filter (·.location = l.location)).length = 1 :=
    Nat.le_antisymm most (List.length_pos_of_mem among)
  rw [same, one]
  rfl

/-- Each location that an access records carries the mount of its lease, and no other. -/
theorem mount_of_mounted {id : AccessId} {path : String} (kept : path ∈ h.mounted id) :
    ∃ m, ⟨some id, m⟩ ∈ leases ∧ m.location = path ∧
      h.files.mounts.filter (·.location = path) = [m] := by
  rw [records.recorded, mem_held] at kept
  obtain ⟨⟨owner, m⟩, here, rfl, rfl⟩ := kept
  refine ⟨m, here, rfl, ?_⟩
  rw [records.table, List.filter_map]
  exact congrArg (List.map Lease.mount) (records.alone here)

theorem mounted_disjoint {id other : AccessId} (differ : id ≠ other) :
    (h.mounted id).Disjoint (h.mounted other) := by
  intro path mine theirs
  rw [records.recorded, mem_held] at mine
  obtain ⟨l, here, owner, rfl⟩ := mine
  rw [records.owner here, owner] at theirs
  exact differ (Option.some.inj theirs)

/-- To close an access takes the mounts at its locations out of the table, and nothing else. -/
theorem close_files (id : AccessId) :
    (h.close id).files =
      ⟨h.files.mounts.filter (·.location ∉ h.mounted id), h.files.volumes⟩ := by
  obtain ⟨volumes, mounts⟩ := close_mounts (records.normal_mounted id)
  rw [← volumes, ← mounts]

/-- A mount that is made goes to the end of the table, and to the end of what its access records. -/
theorem mountFor_records {id : AccessId} {location drive path : String} {backing : Backing}
    {h' : Host} (done : h.mountFor id location backing drive = (.ok (some path), h')) :
    path = Path.normalize location ∧
    h'.files.mounts = h.files.mounts ++ [⟨drive, path, backing⟩] ∧
    h'.mounted id = h.mounted id ++ [path] ∧
    ∀ other, other ≠ id → h'.mounted other = h.mounted other := by
  obtain ⟨normal, -, -, mounts, -, kept⟩ := mountFor_ok done
  have after := records.mount done
  refine ⟨normal, mounts, ?_, fun other differs => by rw [kept, if_neg differs]⟩
  rw [after.recorded, held_append, held_singleton, if_pos rfl, records.recorded]
  rfl

/-- To close an access leaves the mounts of all leases but its own. -/
theorem close_leases (id : AccessId) :
    (h.close id).files =
      ⟨(leases.filter (·.owner ≠ some id)).map Lease.mount, h.files.volumes⟩ := by
  have volumes := (close_mounts (records.normal_mounted id)).1
  have mounts := (records.close id).table
  rw [← volumes, ← mounts]

end Records

/-- An unmount that is done takes one mount of the access out of the table. -/
theorem unmountFor_takes {h h' : Host} {id : AccessId} {location : String}
    (done : h.unmountFor id location = (.ok (), h')) :
    Path.normalize location ∈ h.mounted id ∧
    h'.files.mounts = h.files.mounts.filter (·.location ≠ Path.normalize location) ∧
    h'.mounted id = (h.mounted id).filter (· ≠ Path.normalize location) ∧
    ∀ other, other ≠ id → h'.mounted other = h.mounted other := by
  obtain ⟨mine, -, mounts, -, kept⟩ := unmountFor_ok done
  exact ⟨mine, mounts, by rw [kept, if_pos rfl], fun other differs => by rw [kept, if_neg differs]⟩

/-- In every state that mounts, unmounts, changes of the registry, and mounts of the host lead to:
the mount table holds the mounts of the leases, in their order and no two at one location, and each
access records the locations of its own leases, so what it mounted and has not unmounted since. Each
of these carries just the mount that the access made there, no location is recorded by two accesses,
and an access that is not attached records none. A mount that is made is recorded, and an unmount
takes away the one mount; if they fail, nothing changes. A detach that completes takes away the
mounts of all leases that the access has by then, and no other. What code, hooks and commands do
leads to such states again. -/
theorem mounts_owned {h : Host} {leases : List Lease} (reachable : Reachable h leases) :
    (h.files.mounts = leases.map Lease.mount ∧ (leases.map Lease.location).Nodup) ∧
    (∀ id, h.mounted id = held leases id) ∧
    (∀ id, ∀ path ∈ h.mounted id, ∃ m, ⟨some id, m⟩ ∈ leases ∧ m.location = path ∧
      h.files.mounts.filter (·.location = path) = [m]) ∧
    (∀ id other, id ≠ other → (h.mounted id).Disjoint (h.mounted other)) ∧
    (∀ id, h.isAttached id = false → h.mounted id = []) ∧
    (∀ id location backing drive path h',
      h.mountFor id location backing drive = (.ok (some path), h') →
      Moves (h, leases) (h', leases ++ [⟨some id, ⟨drive, path, backing⟩⟩]) ∧
      path = Path.normalize location ∧
      h'.files.mounts = h.files.mounts ++ [⟨drive, path, backing⟩] ∧
      h'.mounted id = h.mounted id ++ [path] ∧
      ∀ other, other ≠ id → h'.mounted other = h.mounted other) ∧
    (∀ id location backing drive,
      (∀ path, (h.mountFor id location backing drive).1 ≠ .ok (some path)) →
        (h.mountFor id location backing drive).2 = h) ∧
    (∀ id location h', h.unmountFor id location = (.ok (), h') →
      Path.normalize location ∈ h.mounted id ∧
      h'.files.mounts = h.files.mounts.filter (·.location ≠ Path.normalize location) ∧
      h'.mounted id = (h.mounted id).filter (· ≠ Path.normalize location) ∧
      ∀ other, other ≠ id → h'.mounted other = h.mounted other) ∧
    (∀ id location, (h.unmountFor id location).1 ≠ .ok () →
      (h.unmountFor id location).2 = h) ∧
    (∀ depth a h', h.runHook (Program.run depth) .detach a = (.ok (), h') →
      h.pass (Program.run depth) .detach a = (.ok (), h'.close a.id) ∧
      (∃ leases', Moves (h, leases) (h', leases') ∧
        h'.files.mounts = leases'.map Lease.mount ∧ h'.mounted a.id = held leases' a.id ∧
        (h'.close a.id).files =
          ⟨(leases'.filter (·.owner ≠ some a.id)).map Lease.mount, h'.files.volumes⟩) ∧
      (h'.close a.id).files =
        ⟨h'.files.mounts.filter (·.location ∉ h'.mounted a.id), h'.files.volumes⟩ ∧
      (h'.close a.id).mounted a.id = []) ∧
    (∀ changes, ∃ leases', Moves (h, leases) (h.replay changes, leases')) ∧
    (∀ depth (p : Program), ∃ leases', Moves (h, leases) ((p.run depth h).2, leases')) ∧
    (∀ depth command, ∃ leases',
      Moves (h, leases) ((h.perform (Program.run depth) command).2, leases')) ∧
    ∀ id disk, ∃ leases', Moves (h, leases) ((h.insertDisk id disk).2, leases') := by
  have records := reachable.records
  refine ⟨⟨records.table, records.once⟩, records.recorded,
    fun _ _ => records.mount_of_mounted, fun _ _ => records.mounted_disjoint,
    records.closed, fun _ _ _ _ _ _ done => ⟨.single (.mount done), records.mountFor_records done⟩,
    fun _ _ _ _ => mountFor_failed, fun _ _ _ => unmountFor_takes,
    fun _ _ => unmountFor_failed, fun depth a h' hooked => ?_,
    fun changes => Follows.replay changes h leases,
    fun depth p => Follows.run depth p h leases,
    fun depth command => Follows.perform depth command h leases,
    fun id disk => Follows.insertDisk h id disk leases⟩
  obtain ⟨leases', steps⟩ := Follows.runHook depth .detach h a leases
  rw [hooked] at steps
  have then' := (reachable.moves steps).records
  refine ⟨?_, ⟨leases', steps, then'.table, then'.recorded a.id, then'.close_leases a.id⟩,
    then'.close_files a.id, ?_⟩
  · unfold pass
    rw [hooked]
  · rw [mounted_close, if_pos rfl]

/-! ## A device between mounts of the host -/

def depot : Device := Device.plain .speaker "depot" (ClassDecl.plain .speaker "Depot" []) .stateless

/-- A depot attached on the left. -/
def depotAttached : Host :=
  ((((Host.new Config.default).addDevice depot).2.exchange .left (some ⟨0⟩)).2.2.linkAll).2

def hostMounted (h : Host) (label location : String) (volume : VolumeId) : Host :=
  { h with files := (h.files.mountAt label location (.writable volume)).2 }

def depotMounted : Except MethodError (Option String) × Host :=
  (depotAttached.hostMounted "rom" "/rom" 0).mountFor ⟨.left, 0⟩ "/disk/" (.writable 1) "disk"

/-- It has a mount of its own, between two that the host made. -/
def depotHost : Host := depotMounted.2.hostMounted "logs" "logs" 2

def depotLeases : List Lease :=
  [⟨none, ⟨"rom", "rom", .writable 0⟩⟩, ⟨some ⟨.left, 0⟩, ⟨"disk", "disk", .writable 1⟩⟩,
    ⟨none, ⟨"logs", "logs", .writable 2⟩⟩]

theorem depot_reachable : Reachable depotHost depotLeases := by
  have host {h : Host} {leases : List Lease} (label location path : String)
      (volume : VolumeId) (normal : Path.normalize location = path)
      (free : (h.files.mountAt label location (.writable volume)).1 = .ok ()) :
      Move (h, leases) (h.hostMounted label location volume,
        leases ++ [⟨none, ⟨label, path, .writable volume⟩⟩]) := by
    subst normal
    exact .hostMount (Prod.ext free rfl)
  have attached : Moves (((Host.new Config.default).addDevice depot).2, []) (depotAttached, []) :=
    Relation.ReflTransGen.tail (.single (.exchange _ [] .left (some ⟨0⟩))) (.linkAll _ [])
  have rom : Moves (((Host.new Config.default).addDevice depot).2, [])
      (depotAttached.hostMounted "rom" "/rom" 0, [⟨none, ⟨"rom", "rom", .writable 0⟩⟩]) :=
    attached.tail (host "rom" "/rom" "rom" 0 rfl rfl)
  have disk : depotMounted = (.ok (some "disk"), depotMounted.2) := rfl
  have steps := (rom.tail (.mount disk)).tail (host "logs" "logs" "logs" 2 rfl rfl)
  exact ⟨((Host.new Config.default).addDevice depot).2, ⟨rfl, rfl, rfl⟩, rfl, steps⟩

/-- When it is detached, its mount goes and those of the host stay in their order. -/
theorem mounts_owned_depot :
    (∃ m, ⟨some ⟨.left, 0⟩, m⟩ ∈ depotLeases ∧ m.location = "disk" ∧
      depotHost.files.mounts.filter (·.location = "disk") = [m]) ∧
    ∃ a, depotHost.access? ⟨.left, 0⟩ = some a ∧
      (depotHost.pass (Program.run 0) .detach a).2.files.locations = ["rom", "logs"] := by
  obtain ⟨-, -, present, -, -, -, -, -, -, detached, -⟩ := mounts_owned depot_reachable
  obtain ⟨a, found, mine, records, hooked⟩ : ∃ a, depotHost.access? ⟨.left, 0⟩ = some a ∧
      a.id = ⟨.left, 0⟩ ∧ a.mounts = ["disk"] ∧
        depotHost.runHook (Program.run 0) .detach a = (.ok (), depotHost) :=
    ⟨_, rfl, rfl, rfl, rfl⟩
  have recorded : depotHost.mounted ⟨.left, 0⟩ = ["disk"] :=
    (mounted_of_access? found).trans records
  obtain ⟨passed, -, files, -⟩ := detached 0 a depotHost hooked
  refine ⟨present ⟨.left, 0⟩ "disk" (recorded ▸ .head _), a, found, ?_⟩
  rw [passed]
  show (depotHost.close a.id).files.locations = ["rom", "logs"]
  rw [files, mine, recorded]
  rfl

end DeviceBridge.Host
