import DeviceBridge.Proofs.Files.Mounted
import DeviceBridge.Proofs.Registry.Refinement
import Mathlib.Data.List.Nodup
import Mathlib.Logic.Relation

/-
  Who owns a mount. The mount table does not say who made a mount, and an access keeps only the
  locations of its own. A lease is a mount together with whoever made it; `Move` is a step of
  anything that shares the file system, with what becomes of the leases. The table and the accesses
  record the leases (`Records`), and every step keeps that (`Records.move`).
-/

namespace DeviceBridge

/-- A mount and who made it: an access, or else the host itself. -/
structure Lease where
  owner : Option AccessId
  mount : MountPoint

namespace Lease

def location (l : Lease) : String := l.mount.location

end Lease

/-- The locations that an access has leases for. -/
def held (leases : List Lease) (id : AccessId) : List String :=
  (leases.filter (·.owner = some id)).map Lease.location

theorem mem_held {leases : List Lease} {id : AccessId} {path : String} :
    path ∈ held leases id ↔ ∃ l ∈ leases, l.owner = some id ∧ l.location = path := by
  unfold held
  rw [List.mem_map]
  constructor
  · rintro ⟨l, here, same⟩
    obtain ⟨here, owner⟩ := List.mem_filter.mp here
    exact ⟨l, here, of_decide_eq_true owner, same⟩
  · rintro ⟨l, here, owner, same⟩
    exact ⟨l, List.mem_filter.mpr ⟨here, decide_eq_true owner⟩, same⟩

theorem held_append (leases more : List Lease) (id : AccessId) :
    held (leases ++ more) id = held leases id ++ held more id := by
  unfold held
  rw [List.filter_append, List.map_append]

theorem held_singleton (l : Lease) (id : AccessId) :
    held [l] id = if l.owner = some id then [l.location] else [] := by
  unfold held
  rw [List.filter_singleton]
  by_cases mine : l.owner = some id
  · rw [if_pos mine, decide_eq_true mine]
    rfl
  · rw [if_neg mine, decide_eq_false mine]
    rfl

namespace Host

/-- A step of anything that shares the file system, with what becomes of the leases. Whoever mounts
has a lease until they unmount; an access loses all of its leases when it is closed. -/
inductive Move : Host × List Lease → Host × List Lease → Prop where
  | mount {h h' : Host} {leases : List Lease} {id : AccessId} {location drive path : String}
      {backing : Backing} (done : h.mountFor id location backing drive = (.ok (some path), h')) :
      Move (h, leases) (h', leases ++ [⟨some id, ⟨drive, path, backing⟩⟩])
  | unmount {h h' : Host} {leases : List Lease} {id : AccessId} {location : String}
      (done : h.unmountFor id location = (.ok (), h')) :
      Move (h, leases) (h', leases.filter fun l =>
        ¬(l.owner = some id ∧ l.location = Path.normalize location))
  | close (h : Host) (leases : List Lease) (id : AccessId) :
      Move (h, leases) (h.close id, leases.filter fun l => l.owner ≠ some id)
  | exchange (h : Host) (leases : List Lease) (side : Side) (device : Option DeviceId) :
      Move (h, leases) ((h.exchange side device).2.2, leases)
  | linkAll (h : Host) (leases : List Lease) : Move (h, leases) (h.linkAll.2, leases)
  | unlinkAll (h : Host) (leases : List Lease) : Move (h, leases) (h.unlinkAll.2, leases)
  | hostMount {h : Host} {leases : List Lease} {label location : String} {backing : Backing}
      {files : FileSystem} (done : h.files.mountAt label location backing = (.ok (), files)) :
      Move (h, leases)
        ({ h with files }, leases ++ [⟨none, ⟨label, Path.normalize location, backing⟩⟩])
  /-- The host unmounts only what it mounted itself. -/
  | hostUnmount {h : Host} {leases : List Lease} {location : String}
      (own : ∀ l ∈ leases, l.location = Path.normalize location → l.owner = none) :
      Move (h, leases) ({ h with files := (h.files.unmount location).2 },
        leases.filter fun l => ¬(l.owner = none ∧ l.location = Path.normalize location))
  /-- Anything that leaves the mount table and the accesses alone. -/
  | elsewhere {h h' : Host} {leases : List Lease} (mounts : h'.files.mounts = h.files.mounts)
      (accesses : h'.accesses = h.accesses) : Move (h, leases) (h', leases)

/-- Any number of steps. -/
def Moves : Host × List Lease → Host × List Lease → Prop := Relation.ReflTransGen Move

/-- The states that steps lead to from a fresh host with an empty mount table. -/
def Reachable (h : Host) (leases : List Lease) : Prop :=
  ∃ start : Host, start.Fresh ∧ start.files.mounts = [] ∧ Moves (start, []) (h, leases)

/-! ## The table and the accesses record the leases -/

structure Records (h : Host) (leases : List Lease) : Prop where
  table : h.files.mounts = leases.map Lease.mount
  once : (leases.map Lease.location).Nodup
  normal : ∀ l ∈ leases, Path.normalize l.location = l.location
  recorded : ∀ id, h.mounted id = held leases id
  closed : ∀ id, h.isAttached id = false → h.mounted id = []

namespace Records

variable {h h' : Host} {leases : List Lease}

theorem fresh (fresh : h.Fresh) (empty : h.files.mounts = []) : Records h [] := by
  have nothing (id : AccessId) : h.mounted id = [] := by
    unfold mounted access?
    rw [fresh.accesses]
    rfl
  exact ⟨empty, List.nodup_nil, fun l here => absurd here List.not_mem_nil, nothing,
    fun id _ => nothing id⟩

theorem locations (records : Records h leases) :
    h.files.locations = leases.map Lease.location := by
  unfold FileSystem.locations
  rw [records.table, List.map_map]
  rfl

/-- There is one lease for a location, so what an access records tells the owner. -/
theorem owner (records : Records h leases) {l : Lease} (here : l ∈ leases) {id : AccessId} :
    l.location ∈ h.mounted id ↔ l.owner = some id := by
  rw [records.recorded, mem_held]
  constructor
  · rintro ⟨other, there, owner, same⟩
    rw [← List.inj_on_of_nodup_map records.once there here same]
    exact owner
  · exact fun owner => ⟨l, here, owner, rfl⟩

theorem normal_mounted (records : Records h leases) (id : AccessId) :
    ∀ path ∈ h.mounted id, Path.normalize path = path := by
  intro path kept
  rw [records.recorded, mem_held] at kept
  obtain ⟨l, here, -, rfl⟩ := kept
  exact records.normal l here

/-- A change that leaves the table and what is mounted alone, and closes nothing. -/
theorem same (records : Records h leases) (mounts : h'.files.mounts = h.files.mounts)
    (kept : ∀ id, h'.mounted id = h.mounted id)
    (open' : ∀ id, h.isAttached id = true → h'.isAttached id = true) : Records h' leases := by
  refine ⟨mounts.trans records.table, records.once, records.normal,
    fun id => (kept id).trans (records.recorded id), fun id shut => ?_⟩
  rw [kept]
  refine records.closed id (Bool.eq_false_iff.mpr fun attached => ?_)
  rw [open' id attached] at shut
  cases shut

theorem rearranged (records : Records h leases) (c : Change) (opens : ∀ id, c ≠ .close id)
    (changed : Rearranged h (h.after c)) (kept : ∀ id, (h.after c).mounted id = h.mounted id) :
    Records (h.after c) leases :=
  records.same (congrArg FileSystem.mounts changed.files) kept fun _ => isAttached_after opens

/-- A new lease, at a location that is free. -/
theorem add (records : Records h leases) {l : Lease} (free : l.location ∉ h.files.locations)
    (normal : Path.normalize l.location = l.location)
    (mounts : h'.files.mounts = h.files.mounts ++ [l.mount])
    (kept : ∀ id, h'.mounted id = h.mounted id ++ held [l] id)
    (closed : ∀ id, h'.isAttached id = false → h'.mounted id = []) :
    Records h' (leases ++ [l]) := by
  rw [records.locations] at free
  refine ⟨?_, ?_, ?_, fun id => ?_, closed⟩
  · rw [mounts, records.table, List.map_append]
    rfl
  · rw [List.map_append]
    exact records.once.append (List.nodup_singleton _) (List.disjoint_singleton.mpr free)
  · intro other here
    rcases List.mem_append.mp here with here | here
    · exact records.normal other here
    · rw [List.mem_singleton.mp here]
      exact normal
  · rw [kept, records.recorded, held_append]

/-- The leases at some locations end. -/
theorem part (records : Records h leases) (stays : Lease → Prop) [DecidablePred stays]
    (gone : String → Prop) [DecidablePred gone] (each : ∀ l ∈ leases, stays l ↔ ¬gone l.location)
    (mounts : h'.files.mounts = h.files.mounts.filter fun m => ¬gone m.location)
    (kept : ∀ id, h'.mounted id = (h.mounted id).filter fun path => ¬gone path)
    (closed : ∀ id, h'.isAttached id = false → h'.mounted id = []) :
    Records h' (leases.filter stays) := by
  have same : leases.filter stays = leases.filter fun l => ¬gone l.location :=
    List.filter_congr fun l here => decide_eq_decide.mpr (each l here)
  refine ⟨?_, records.once.sublist (List.filter_sublist.map _),
    fun l here => records.normal l (List.mem_of_mem_filter here), fun id => ?_, closed⟩
  · rw [mounts, records.table, same, List.filter_map]
    rfl
  · rw [kept, records.recorded, same]
    unfold held
    rw [List.filter_map, List.filter_filter, List.filter_filter]
    congr 1
    exact List.filter_congr fun l _ => Bool.and_comm ..

/-- An access records none of the locations at which only others have leases. -/
theorem mounted_apart (records : Records h leases) {id : AccessId} (gone : String → Prop)
    [DecidablePred gone] (others : ∀ l ∈ leases, gone l.location → l.owner ≠ some id) :
    (h.mounted id).filter (fun path => ¬gone path) = h.mounted id := by
  refine List.filter_eq_self.mpr fun path here => decide_eq_true ?_
  intro ends
  rw [records.recorded, mem_held] at here
  obtain ⟨l, here, owner, rfl⟩ := here
  exact others l here ends owner

/-- A change of what an attached access has mounted. -/
theorem closed_others (records : Records h leases) {id : AccessId}
    (attached : h.isAttached id = true) (same : ∀ other, h'.isAttached other = h.isAttached other)
    (kept : ∀ other, other ≠ id → h'.mounted other = h.mounted other) {other : AccessId}
    (shut : h'.isAttached other = false) : h'.mounted other = [] := by
  rw [same] at shut
  have differs : other ≠ id := by
    rintro rfl
    rw [attached] at shut
    cases shut
  rw [kept other differs]
  exact records.closed other shut

/-! ### Steps -/

theorem mount (records : Records h leases) {id : AccessId} {location drive path : String}
    {backing : Backing} (done : h.mountFor id location backing drive = (.ok (some path), h')) :
    Records h' (leases ++ [⟨some id, ⟨drive, path, backing⟩⟩]) := by
  obtain ⟨rfl, free, attached, mounts, same, kept⟩ := mountFor_ok done
  have unrecorded : Path.normalize location ∉ h.mounted id := by
    rw [records.recorded, mem_held]
    rintro ⟨l, here, -, same⟩
    rw [records.locations, ← same] at free
    exact free (List.mem_map_of_mem here)
  rw [if_neg unrecorded] at kept
  refine records.add free (Path.normalize_normalize location) mounts (fun other => ?_)
    fun other shut => records.closed_others attached same (fun other differs => ?_) shut
  · rw [kept, held_singleton]
    by_cases mine : other = id
    · rw [if_pos mine, if_pos (congrArg some mine.symm), mine]
      rfl
    · rw [if_neg mine, if_neg fun same => mine (Option.some.inj same).symm, List.append_nil]
  · rw [kept, if_neg differs]

theorem unmount (records : Records h leases) {id : AccessId} {location : String}
    (done : h.unmountFor id location = (.ok (), h')) :
    Records h' (leases.filter fun l =>
      ¬(l.owner = some id ∧ l.location = Path.normalize location)) := by
  obtain ⟨mine, attached, mounts, same, kept⟩ := unmountFor_ok done
  have owned : ∀ l ∈ leases, l.location = Path.normalize location → l.owner = some id := by
    intro l here there
    rw [← records.owner here, there]
    exact mine
  refine records.part _ (· = Path.normalize location) (fun l here => ?_) mounts
    (fun other => ?_) fun other shut => records.closed_others attached same
      (fun other differs => ?_) shut
  · rw [not_iff_not, and_iff_right_iff_imp]
    exact owned l here
  · rw [kept]
    split
    · next here =>
      rw [here]
    · next differs =>
      refine (records.mounted_apart _ fun l here there => ?_).symm
      rw [owned l here there]
      exact fun same => differs (Option.some.inj same).symm
  · rw [kept, if_neg differs]

theorem close (records : Records h leases) (id : AccessId) :
    Records (h.close id) (leases.filter fun l => l.owner ≠ some id) := by
  refine records.part _ (· ∈ h.mounted id) (fun l here => ?_)
    (close_mounts (records.normal_mounted id)).2 (fun other => ?_) fun other shut => ?_
  · rw [records.owner here]
  · rw [mounted_close]
    split
    · next mine =>
      rw [mine]
      refine (List.filter_eq_nil_iff.mpr fun path here => ?_).symm
      exact fun stays => of_decide_eq_true stays here
    · next differs =>
      refine (records.mounted_apart _ fun l here there => ?_).symm
      rw [(records.owner here).mp there]
      exact fun same => differs (Option.some.inj same).symm
  · rw [isAttached_close] at shut
    rw [mounted_close]
    split
    · rfl
    · next differs =>
      rw [if_neg differs] at shut
      exact records.closed other shut

theorem hostMount (records : Records h leases) {label location : String} {backing : Backing}
    {files : FileSystem} (done : h.files.mountAt label location backing = (.ok (), files)) :
    Records { h with files } (leases ++ [⟨none, ⟨label, Path.normalize location, backing⟩⟩]) := by
  obtain ⟨free, -, mounts⟩ := FileSystem.mountAt_ok done
  refine records.add free (Path.normalize_normalize location) mounts (fun id => ?_)
    records.closed
  rw [held_singleton, if_neg nofun, List.append_nil]
  rfl

theorem hostUnmount (records : Records h leases) {location : String}
    (own : ∀ l ∈ leases, l.location = Path.normalize location → l.owner = none) :
    Records { h with files := (h.files.unmount location).2 }
      (leases.filter fun l => ¬(l.owner = none ∧ l.location = Path.normalize location)) := by
  refine records.part _ (· = Path.normalize location) (fun l here => ?_) rfl (fun id => ?_)
    records.closed
  · rw [not_iff_not, and_iff_right_iff_imp]
    exact own l here
  · refine (records.mounted_apart _ fun l here there => ?_).symm
    rw [own l here there]
    exact nofun

/-- A step lemma: every step keeps the records. -/
theorem move {s s' : Host × List Lease} (step : Move s s') (records : Records s.1 s.2) :
    Records s'.1 s'.2 := by
  cases step with
  | mount done => exact records.mount done
  | unmount done => exact records.unmount done
  | close h leases id => exact records.close id
  | exchange h leases side device =>
    exact records.rearranged (.exchange side device) nofun (.exchange h side device)
      (mounted_exchange h side device)
  | linkAll h leases =>
    exact records.rearranged .linkAll nofun (.linkAll h) (mounted_linkAll h)
  | unlinkAll h leases =>
    exact records.rearranged .unlinkAll nofun (.unlinkAll h) (mounted_unlinkAll h)
  | hostMount done => exact records.hostMount done
  | hostUnmount own => exact records.hostUnmount own
  | elsewhere mounts accesses =>
    refine records.same mounts (fun id => ?_) fun id attached => ?_
    · unfold mounted access?
      rw [accesses]
    · unfold isAttached access? at attached ⊢
      rwa [accesses]

/-- By induction on the steps. -/
theorem moves {s s' : Host × List Lease} (steps : Moves s s') (records : Records s.1 s.2) :
    Records s'.1 s'.2 := by
  induction steps with
  | refl => exact records
  | tail _ step ih => exact move step ih

end Records

theorem Reachable.records {h : Host} {leases : List Lease} (reachable : Reachable h leases) :
    Records h leases := by
  obtain ⟨start, fresh, empty, steps⟩ := reachable
  exact Records.moves steps (Records.fresh fresh empty)

end Host

end DeviceBridge
