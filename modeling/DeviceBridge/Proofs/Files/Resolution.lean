import DeviceBridge.Files.System
import DeviceBridge.Proofs.Files.Trails
import Mathlib.Data.List.Nodup

/-
  Which mount serves a path. Whatever is mounted and unmounted, mounts sit at normalised locations,
  no two at the same (`Built.located`). Of such mounts the one that serves a path is the deepest of
  those that the path leads through (`resolve_eq_some_iff`), and it is asked for what is left of the
  trail behind its location.
-/

namespace DeviceBridge.FileSystem

open DeviceBridge.Path (trail ofTrail)

/-! ## Mount tables -/

/-- What any mounts and unmounts lead to, whatever becomes of the volumes meanwhile. -/
inductive Built : FileSystem → Prop where
  | empty : Built FileSystem.empty
  | mount {fs fs' : FileSystem} {label location : String} {backing : Backing} (before : Built fs)
      (done : fs.mountAt label location backing = (.ok (), fs')) : Built fs'
  | unmount {fs : FileSystem} (before : Built fs) (location : String) :
      Built (fs.unmount location).2
  | volumes {fs : FileSystem} (before : Built fs) (volumes : List Volume) :
      Built { fs with volumes }

/-- Mounts sit at normalised locations, no two at the same. -/
structure Located (fs : FileSystem) : Prop where
  normal : ∀ m ∈ fs.mounts, Path.normalize m.location = m.location
  distinct : fs.locations.Nodup

variable {fs fs' : FileSystem} {m : MountPoint} {path : String}

theorem mountAt_ok {label location : String} {backing : Backing}
    (mounted : fs.mountAt label location backing = (.ok (), fs')) :
    Path.normalize location ∉ fs.locations ∧ fs'.volumes = fs.volumes ∧
      fs'.mounts = fs.mounts ++ [⟨label, Path.normalize location, backing⟩] := by
  unfold mountAt at mounted
  simp only at mounted
  split at mounted
  · cases mounted
  · next free =>
    cases mounted
    exact ⟨free, rfl, rfl⟩

/-- What is mounted where nothing was is all that is mounted there. -/
theorem filter_mounted {location : String} (mounts : fs'.mounts = fs.mounts ++ [m])
    (there : m.location = location) (free : location ∉ fs.locations) :
    fs'.mounts.filter (·.location ≠ location) = fs.mounts := by
  have others : fs.mounts.filter (·.location ≠ location) = fs.mounts := by
    refine List.filter_eq_self.mpr fun other here => decide_eq_true ?_
    intro same
    exact free (same ▸ List.mem_map_of_mem here)
  rw [mounts, List.filter_append, others, List.filter_singleton,
    decide_eq_false (not_not_intro there), cond_false, List.append_nil]

theorem Located.add (located : fs.Located) (new : MountPoint)
    (normal : Path.normalize new.location = new.location) (free : new.location ∉ fs.locations)
    (mounts : fs'.mounts = fs.mounts ++ [new]) : fs'.Located := by
  refine ⟨fun m here => ?_, ?_⟩
  · rw [mounts] at here
    rcases List.mem_append.mp here with old | last
    · exact located.normal m old
    · rw [List.mem_singleton.mp last]
      exact normal
  · unfold locations
    rw [mounts, List.map_append]
    exact located.distinct.append (List.nodup_singleton _) (List.disjoint_singleton.mpr free)

/-- By induction on the mounts and unmounts. -/
theorem Built.located (built : fs.Built) : fs.Located := by
  induction built with
  | empty => exact ⟨fun m here => absurd here List.not_mem_nil, List.nodup_nil⟩
  | @mount fs fs' label location backing _ done ih =>
    obtain ⟨free, -, mounts⟩ := mountAt_ok done
    exact ih.add ⟨label, Path.normalize location, backing⟩ (Path.normalize_normalize location)
      free mounts
  | unmount _ location ih =>
    exact ⟨fun m here => ih.normal m (List.mem_of_mem_filter here),
      ih.distinct.sublist (List.filter_sublist.map _)⟩
  | volumes _ _ ih => exact ⟨ih.normal, ih.distinct⟩

theorem Located.eq_of_location (located : fs.Located) {other : MountPoint} (here : m ∈ fs.mounts)
    (there : other ∈ fs.mounts) (same : m.location = other.location) : m = other :=
  List.inj_on_of_nodup_map located.distinct here there same

/-! ## The deepest mount -/

/-- The path leads through the mount, and of the mounts that it leads through none is deeper. -/
structure Serves (fs : FileSystem) (path : String) (m : MountPoint) : Prop where
  mounted : m ∈ fs.mounts
  above : trail m.location <+: trail path
  deepest : ∀ other ∈ fs.mounts, trail other.location <+: trail path →
    trail other.location <+: trail m.location

theorem Serves.unique (located : fs.Located) {other : MountPoint} (serves : fs.Serves path m)
    (too : fs.Serves path other) : m = other := by
  have first := too.deepest m serves.mounted serves.above
  have second := serves.deepest other too.mounted too.above
  have same : trail m.location = trail other.location :=
    first.eq_of_length (Nat.le_antisymm first.length_le second.length_le)
  refine located.eq_of_location serves.mounted too.mounted ?_
  rw [← located.normal m serves.mounted, ← located.normal other too.mounted]
  exact congrArg ofTrail same

theorem covers_iff (located : fs.Located) (here : m ∈ fs.mounts) (path : String) :
    Path.covers m.location (Path.normalize path) = true ↔ trail m.location <+: trail path := by
  have same := Path.covers_ofTrail (Path.trail_plain m.location) (Path.trail_plain path)
  rw [Path.ofTrail_trail (located.normal m here)] at same
  exact same

/-- By induction on the mounts: the choice is one of them, and none of them is longer. -/
theorem foldl_deeper (ms : List MountPoint) : ∀ best : MountPoint,
    ∃ m, ms.foldl deeper (some best) = some m ∧ m ∈ best :: ms ∧
      ∀ other ∈ best :: ms, other.location.utf8ByteSize ≤ m.location.utf8ByteSize := by
  induction ms with
  | nil => exact fun best => ⟨best, rfl, .head _, by simp⟩
  | cons first rest ih =>
    intro best
    have either : deeper (some best) first = some first ∧
          best.location.utf8ByteSize ≤ first.location.utf8ByteSize ∨
        deeper (some best) first = some best ∧
          first.location.utf8ByteSize ≤ best.location.utf8ByteSize := by
      unfold deeper
      simp only
      split
      · next longer => exact .inl ⟨rfl, longer⟩
      · next shorter => exact .inr ⟨rfl, by omega⟩
    rw [List.foldl_cons]
    rcases either with ⟨chosen, longer⟩ | ⟨chosen, shorter⟩
    · obtain ⟨m, found, here, most⟩ := ih first
      have top := most first (.head _)
      rw [chosen]
      refine ⟨m, found, .tail _ here, List.forall_mem_cons.mpr ⟨?_, most⟩⟩
      exact Nat.le_trans longer top
    · obtain ⟨m, found, here, most⟩ := ih best
      obtain ⟨top, others⟩ := List.forall_mem_cons.mp most
      rw [chosen]
      refine ⟨m, found, ?_, List.forall_mem_cons.mpr ⟨top, List.forall_mem_cons.mpr ⟨?_, others⟩⟩⟩
      · rcases List.mem_cons.mp here with rfl | later
        · exact .head _
        · exact .tail _ (.tail _ later)
      · exact Nat.le_trans shorter top

/-- What is found is among the mounts that cover the path, and none of these is longer. -/
theorem resolve_found (found : fs.resolve path = some m) :
    m ∈ fs.mounts ∧ Path.covers m.location path = true ∧ ∀ other ∈ fs.mounts,
      Path.covers other.location path = true →
        other.location.utf8ByteSize ≤ m.location.utf8ByteSize := by
  unfold resolve at found
  cases covering : fs.mounts.filter fun m => Path.covers m.location path with
  | nil =>
    rw [covering] at found
    cases found
  | cons best rest =>
    rw [covering] at found
    obtain ⟨chosen, same, here, most⟩ := foldl_deeper rest best
    have found' : rest.foldl deeper (some best) = some m := found
    rw [found'] at same
    cases same
    rw [← covering] at here most
    obtain ⟨mounted, covers⟩ := List.mem_filter.mp here
    exact ⟨mounted, covers, fun other there through =>
      most other (List.mem_filter.mpr ⟨there, through⟩)⟩

theorem resolve_eq_none (nobody : fs.resolve path = none) :
    ∀ m ∈ fs.mounts, Path.covers m.location path = false := by
  intro m here
  refine Bool.eq_false_iff.mpr fun covers => ?_
  have among : m ∈ fs.mounts.filter fun m => Path.covers m.location path :=
    List.mem_filter.mpr ⟨here, covers⟩
  unfold resolve at nobody
  obtain ⟨best, rest, covering⟩ := List.exists_cons_of_ne_nil (List.ne_nil_of_mem among)
  obtain ⟨chosen, found, -⟩ := foldl_deeper rest best
  rw [covering] at nobody
  have none : rest.foldl deeper (some best) = none := nobody
  rw [none] at found
  cases found

/-- A path is served by the deepest of the mounts that it leads through. -/
theorem resolve_eq_some_iff (located : fs.Located) :
    fs.resolve (Path.normalize path) = some m ↔ fs.Serves path m := by
  have served {m : MountPoint} (found : fs.resolve (Path.normalize path) = some m) :
      fs.Serves path m := by
    obtain ⟨mounted, covers, most⟩ := resolve_found found
    have above := (covers_iff located mounted path).mp covers
    refine ⟨mounted, above, fun other there through => ?_⟩
    have longest := most other there ((covers_iff located there path).mpr through)
    rw [← located.normal m mounted, ← located.normal other there] at longest
    exact (Path.size_le_iff (Path.trail_plain path) through above).mp longest
  refine ⟨served, fun serves => ?_⟩
  cases found : fs.resolve (Path.normalize path) with
  | none =>
    have covers := (covers_iff located serves.mounted path).mpr serves.above
    rw [resolve_eq_none found m serves.mounted] at covers
    cases covers
  | some other => rw [serves.unique located (served found)]

/-- A path is served by nothing if it leads through no mount. -/
theorem resolve_eq_none_iff (located : fs.Located) :
    fs.resolve (Path.normalize path) = none ↔
      ∀ m ∈ fs.mounts, ¬trail m.location <+: trail path := by
  constructor
  · intro nobody m here above
    have covers := (covers_iff located here path).mpr above
    rw [resolve_eq_none nobody m here] at covers
    cases covers
  · intro none
    cases found : fs.resolve (Path.normalize path) with
    | none => rfl
    | some m =>
      have serves := (resolve_eq_some_iff located).mp found
      exact absurd serves.above (none m serves.mounted)

/-! ## Answers -/

namespace Serves

variable (located : fs.Located) (serves : fs.Serves path m)
include located serves

theorem has {rest : Path.Trail} (below : trail path = trail m.location ++ rest) :
    fs.has path = m.backing.tree.has fs.volumes (ofTrail rest) := by
  have seen := Path.relative_normalize (located.normal m serves.mounted) below
  unfold FileSystem.has
  simp only
  rw [(resolve_eq_some_iff located).mpr serves, ← seen]

theorem isDirectory {rest : Path.Trail} (below : trail path = trail m.location ++ rest) :
    fs.isDirectory path = m.backing.tree.isDirectory fs.volumes (ofTrail rest) := by
  have seen := Path.relative_normalize (located.normal m serves.mounted) below
  unfold FileSystem.isDirectory
  simp only
  rw [(resolve_eq_some_iff located).mpr serves, ← seen]

/-- A directory is listed by the mount that serves it; the mounts directly below are added. -/
theorem list {rest : Path.Trail} (below : trail path = trail m.location ++ rest) :
    fs.list path = (m.backing.tree.list fs.volumes (ofTrail rest)).map fun names =>
      mergeNames names (fs.mountsBelow (Path.normalize path)) := by
  have seen := Path.relative_normalize (located.normal m serves.mounted) below
  unfold FileSystem.list
  simp only
  rw [(resolve_eq_some_iff located).mpr serves]
  simp only
  rw [seen]
  cases m.backing.tree.list fs.volumes (ofTrail rest) <;> rfl

end Serves

/-- What exists is served. -/
theorem serves_of_has (located : fs.Located) (present : fs.has path = true) :
    ∃ m, fs.Serves path m := by
  unfold FileSystem.has at present
  simp only at present
  cases found : fs.resolve (Path.normalize path) with
  | none =>
    rw [found] at present
    cases present
  | some m => exact ⟨m, (resolve_eq_some_iff located).mp found⟩

end DeviceBridge.FileSystem
