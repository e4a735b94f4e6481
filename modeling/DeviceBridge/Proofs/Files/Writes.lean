import DeviceBridge.Proofs.Files.Atomicity
import DeviceBridge.Proofs.Files.Layers
import DeviceBridge.Proofs.Files.Listings

/-
  What a write changes. In a volume it changes the path and makes the directories above it, which
  were there or missing but never files (`IsTree.write_node?`). No other tree is made of that
  volume (`Separated`), so whoever else serves a path answers as before (`Composed.answers_same`),
  and of the paths that the same mount serves only those on the way down to the written one can
  change. `write_frame` is all of this for a whole file system.
-/

namespace DeviceBridge

open DeviceBridge.Path (Trail Plain trail ofTrail)

/-! ## Volumes -/

namespace Volume

variable {v : Volume} {t u : Trail} {contents : Bytes}

/-- By induction on the directories: once made they stay. -/
theorem makeAll_made (ds : List String) : ∀ {v : Volume}, (v.makeAll ds).1 = .ok () →
    ∀ d ∈ ds, (v.makeAll ds).2.node? d = some .directory := by
  induction ds with
  | nil => exact fun _ d here => absurd here List.not_mem_nil
  | cons d rest ih =>
    intro v made
    unfold makeAll at made ⊢
    have first {v : Volume} (held : v.node? d = some .directory) :
        (v.makeAll rest).2.node? d = some .directory := by
      rcases IsTree.makeAll_node? rest v d with same | ⟨-, there⟩
      · rw [same, held]
      · exact there
    rw [List.forall_mem_cons]
    cases held : v.node? d with
    | none =>
      rw [held] at made
      exact ⟨first (by rw [node?_insert, if_pos rfl]), ih made⟩
    | some node =>
      rw [held] at made
      cases node with
      | directory => exact ⟨first held, ih made⟩
      | file contents => cases made

theorem write_ok {path : String} (done : (v.write path contents).1 = .ok ()) :
    (v.makeAll (Path.ancestors path)).1 = .ok () ∧
      (v.write path contents).2 =
        (v.makeAll (Path.ancestors path)).2.insert path (.file contents) := by
  unfold write at done ⊢
  split at done
  · cases done
  · next free =>
    rw [if_neg free]
    generalize v.makeAll (Path.ancestors path) = came at done ⊢
    obtain ⟨result, v'⟩ := came
    cases result with
    | error => cases done
    | ok => exact ⟨rfl, rfl⟩

/-- The root cannot be written. -/
theorem IsTree.write_below (tree : v.IsTree) (done : (v.write (ofTrail t) contents).1 = .ok ()) :
    t ≠ [] := by
  rintro rfl
  have root : v.isDirectory (ofTrail []) = true := isDirectory_iff.mpr tree.root
  unfold Volume.write at done
  rw [if_pos root] at done
  cases done

/-- After a write the file is there, below directories; all else is as it was. -/
theorem IsTree.write_node? (tree : v.IsTree) (plain : Plain t)
    (done : (v.write (ofTrail t) contents).1 = .ok ()) (other : Plain u) :
    (v.write (ofTrail t) contents).2.node? (ofTrail u) =
      if u = t then some (.file contents) else if u <+: t then some .directory
        else v.node? (ofTrail u) := by
  obtain ⟨t, p, rfl⟩ := (List.eq_nil_or_concat' t).resolve_left (tree.write_below done)
  obtain ⟨made, changed⟩ := write_ok done
  rw [changed, node?_insert]
  by_cases mine : u = t ++ [p]
  · rw [if_pos (congrArg ofTrail mine), if_pos mine]
  rw [if_neg fun same => mine ((Path.ofTrail_inj other plain).mp same), if_neg mine]
  have kept := IsTree.makeAll_node? (Path.ancestors (ofTrail (t ++ [p]))) v (ofTrail u)
  rw [Path.ancestors_ofTrail plain] at made kept ⊢
  by_cases above : u <+: t ++ [p]
  · rw [if_pos above]
    by_cases root : u = []
    · rcases kept with same | ⟨-, there⟩
      · rw [same, root]
        exact tree.root
      · exact there
    · have onWay := (List.prefix_concat_iff.mp above).resolve_left mine
      exact makeAll_made _ made _ (List.mem_map_of_mem (Path.join_mem_prefixes root [] onWay))
  · rw [if_neg above]
    rcases kept with same | ⟨among, -⟩
    · exact same
    · -- Only what lies on the way to the path is among its ancestors.
      obtain ⟨d, here, same⟩ := List.mem_map.mp among
      obtain ⟨further, onWay, rfl⟩ := Path.mem_prefixes here
      have shorter : Plain further := fun q inside =>
        plain q (List.mem_append_left _ (onWay.subset inside))
      rw [(Path.ofTrail_inj shorter other).mp same] at onWay
      exact absurd (onWay.trans (List.prefix_append t [p])) above

/-- A directory or nothing was there on the way to a path that was written. -/
theorem IsTree.write_above (tree : v.IsTree) (plain : Plain t)
    (done : (v.write (ofTrail t) contents).1 = .ok ()) (above : u <+: t) (apart : u ≠ t)
    (present : v.has (ofTrail u) = true) : v.node? (ofTrail u) = some .directory := by
  obtain ⟨below, rfl⟩ := above
  have clear := (tree.write_whole (Path.normalize_ofTrail plain) contents).1.mp done
  unfold has at present
  obtain ⟨node, held⟩ := Option.isSome_iff_exists.mp present
  cases node with
  | directory => exact held
  | file text =>
    refine absurd (.inr ⟨u, below, text, Path.trail_ofTrail plain, ?_, held⟩) clear
    rintro rfl
    exact apart (List.append_nil u).symm

theorem answers_file {path : String} (held : v.node? path = some (.file contents)) :
    v.has path = true ∧ v.isDirectory path = false ∧ v.read path = .ok contents := by
  unfold has isDirectory read
  rw [held]
  exact ⟨rfl, rfl, rfl⟩

theorem read_eq_ok_iff {path : String} :
    v.read path = .ok contents ↔ v.node? path = some (.file contents) := by
  unfold read
  cases v.node? path with
  | none => exact iff_of_false nofun nofun
  | some node => cases node <;> simp

theorem answers_directory {path : String} (held : v.node? path = some .directory) :
    v.has path = true ∧ v.isDirectory path = true := by
  unfold has isDirectory
  rw [held]
  exact ⟨rfl, rfl⟩

theorem answers_congr {v' : Volume} {path : String} (same : v'.node? path = v.node? path) :
    v'.has path = v.has path ∧ v'.isDirectory path = v.isDirectory path ∧
      v'.read path = v.read path := by
  unfold has isDirectory read
  rw [same]
  exact ⟨rfl, rfl, rfl⟩

end Volume

/-! ## Trees -/

namespace Mount

variable {volumes volumes' : List Volume} {m : Mount} {layers : List Mount} {path : String}

/-- What exists is the same, is a directory as before and is read as before. -/
structure Unchanged (volumes volumes' : List Volume) (m : Mount) (path : String) : Prop where
  has : m.has volumes' path = m.has volumes path
  isDirectory : m.isDirectory volumes' path = m.isDirectory volumes path
  read : m.read volumes' path = m.read volumes path

theorem unchanged_layered (each : ∀ m ∈ layers, m.Unchanged volumes volumes' path) :
    (layered layers).Unchanged volumes volumes' path := by
  have all : anyHas volumes' layers path = anyHas volumes layers path ∧
      anyIsDirectory volumes' layers path = anyIsDirectory volumes layers path ∧
      readLayers volumes' layers path = readLayers volumes layers path := by
    induction layers with
    | nil => exact ⟨rfl, rfl, rfl⟩
    | cons m above ih =>
      obtain ⟨has, isDirectory, read⟩ := ih fun n here => each n (.tail _ here)
      have own := each m (.head _)
      refine ⟨?_, ?_, ?_⟩
      · rw [anyHas, anyHas, has, own.has]
      · rw [anyIsDirectory, anyIsDirectory, isDirectory, own.isDirectory]
      · rw [readLayers_cons, readLayers_cons, read, own.has, own.isDirectory, own.read]
  obtain ⟨has, isDirectory, read⟩ := all
  refine ⟨has, isDirectory, ?_⟩
  rw [read_layered, read_layered, read]

/-- A tree depends on the volumes that it is made of. By induction on the layers. -/
theorem Composed.unchanged (made : m.Composed)
    (same : ∀ id ∈ m.leaves, volumeAt volumes' id = volumeAt volumes id) (path : String) :
    m.Unchanged volumes volumes' path := by
  induction made with
  | volume id =>
    have here := same id (.head _)
    refine ⟨?_, ?_, ?_⟩
    · rw [Mount.has, Mount.has, here]
    · rw [Mount.isDirectory, Mount.isDirectory, here]
    · rw [Mount.read, Mount.read, here]
  | layered _ ih =>
    exact unchanged_layered fun m here =>
      ih m here fun id inside => same id (mem_leavesOf here inside)

end Mount

/-! ## File systems -/

namespace FileSystem

variable {fs fs' : FileSystem} {m : MountPoint} {path q : String} {contents : Bytes}

/-- A file system of volumes that changed under normalised paths only, alone or in layers, where no
volume can be reached through two mounts. -/
structure Separated (fs : FileSystem) : Prop where
  located : fs.Located
  volumes : ∀ id, (fs.volume id).Edited
  mounts : ∀ m ∈ fs.mounts, m.backing.tree.Composed
  known : ∀ m ∈ fs.mounts, ∀ id ∈ m.backing.tree.leaves, id < fs.volumes.length
  apart : ∀ m ∈ fs.mounts, ∀ n ∈ fs.mounts, ∀ id ∈ m.backing.tree.leaves,
    id ∈ n.backing.tree.leaves → m = n

/-- Why a write is refused: nothing serves the path, what serves it is read-only, there is a
directory, or a file is in the way in the same mount. -/
inductive Refuses (fs : FileSystem) (path : String) : Prop where
  | unserved (nobody : ∀ m ∈ fs.mounts, ¬trail m.location <+: trail path)
  | readOnly {m : MountPoint} {tree : Mount} (serves : fs.Serves path m)
      (backing : m.backing = .readOnly tree)
  | directory (there : fs.isDirectory path = true)
  | blocked {m : MountPoint} {above : String} {text : Bytes} (serves : fs.Serves path m)
      (inside : fs.Serves above m) (onWay : trail above <+: trail path)
      (short : trail above ≠ trail path) (file : fs.read above = .ok text)

/-- What a successful write makes of a file system. -/
structure Written (fs fs' : FileSystem) (path : String) (contents : Bytes) : Prop where
  file : ∀ q, Path.normalize q = Path.normalize path → fs'.has q = true ∧
    fs'.isDirectory q = false ∧ fs'.read q = .ok contents
  kept : ∀ q, Path.normalize q ≠ Path.normalize path → fs.has q = true → fs'.has q = true ∧
    fs'.isDirectory q = fs.isDirectory q ∧ fs'.read q = fs.read q
  new : ∀ q, fs.has q = false → (fs'.has q = true ↔
    trail q <+: trail path ∧ ∃ m, fs.Serves path m ∧ fs.Serves q m)
  directories : ∀ q, Path.normalize q ≠ Path.normalize path → fs.has q = false →
    fs'.has q = true → fs'.isDirectory q = true

/-! ## Volumes that are replaced -/

theorem volumeAt_set (volumes : List Volume) {id : VolumeId} (known : id < volumes.length)
    (v : Volume) (other : VolumeId) : Mount.volumeAt (volumes.set id v) other =
      if other = id then v else Mount.volumeAt volumes other := by
  unfold Mount.volumeAt
  rw [List.getElem?_set]
  by_cases mine : other = id
  · rw [if_pos mine, if_pos mine.symm, if_pos known]
    rfl
  · rw [if_neg mine, if_neg (Ne.symm mine)]

theorem setVolume_volume (fs : FileSystem) (id : VolumeId) :
    fs.setVolume id (fs.volume id) = fs := by
  unfold setVolume volume Mount.volumeAt
  by_cases known : id < fs.volumes.length
  · rw [List.getElem?_eq_getElem known, Option.getD_some, List.set_getElem_self]
  · rw [List.set_eq_of_length_le (Nat.le_of_not_lt known)]

theorem Serves.read (located : fs.Located) (serves : fs.Serves path m) {rest : Trail}
    (below : trail path = trail m.location ++ rest) :
    fs.read path = m.backing.tree.read fs.volumes (ofTrail rest) := by
  have seen := Path.relative_normalize (located.normal m serves.mounted) below
  unfold FileSystem.read
  simp only
  rw [(resolve_eq_some_iff located).mpr serves, ← seen]

theorem Serves.setVolume (serves : fs.Serves path m) (id : VolumeId) (v : Volume) :
    (fs.setVolume id v).Serves path m :=
  ⟨serves.mounted, serves.above, serves.deepest⟩

theorem Located.setVolume (located : fs.Located) (id : VolumeId) (v : Volume) :
    (fs.setVolume id v).Located :=
  ⟨located.normal, located.distinct⟩

theorem Serves.congr (serves : fs.Serves path m) (same : trail q = trail path) : fs.Serves q m := by
  refine ⟨serves.mounted, same ▸ serves.above, fun other there above => ?_⟩
  exact serves.deepest other there (same ▸ above)

/-- Between the location of a mount and a path that it serves all is served by it. -/
theorem Serves.between (serves : fs.Serves path m) (above : trail m.location <+: trail q)
    (onWay : trail q <+: trail path) : fs.Serves q m :=
  ⟨serves.mounted, above, fun other there through =>
    serves.deepest other there (through.trans onWay)⟩

/-- What is served by a writable mount is what its volume has. -/
theorem Serves.writable (located : fs.Located) (serves : fs.Serves path m) {id : VolumeId}
    (backing : m.backing = .writable id) {rest : Trail}
    (below : trail path = trail m.location ++ rest) :
    fs.has path = (fs.volume id).has (ofTrail rest) ∧
      fs.isDirectory path = (fs.volume id).isDirectory (ofTrail rest) ∧
      fs.read path = (fs.volume id).read (ofTrail rest) := by
  refine ⟨?_, ?_, ?_⟩
  · rw [serves.has located below, backing]
    rfl
  · rw [serves.isDirectory located below, backing]
    rfl
  · rw [serves.read located below, backing]
    rfl

theorem Serves.write (located : fs.Located) (serves : fs.Serves path m) {id : VolumeId}
    (backing : m.backing = .writable id) {rest : Trail}
    (below : trail path = trail m.location ++ rest) (contents : Bytes) :
    fs.write path contents = (((fs.volume id).write (ofTrail rest) contents).1,
      fs.setVolume id ((fs.volume id).write (ofTrail rest) contents).2) := by
  have seen := Path.relative_normalize (located.normal m serves.mounted) below
  unfold FileSystem.write
  simp only
  rw [(resolve_eq_some_iff located).mpr serves]
  simp only
  rw [backing, ← seen]

theorem normalize_eq_iff : Path.normalize q = Path.normalize path ↔ trail q = trail path :=
  Path.ofTrail_inj (Path.trail_plain q) (Path.trail_plain path)

/-! ## Successful writes -/

section

variable (separated : fs.Separated) (serves : fs.Serves path m) {id : VolumeId}
  (backing : m.backing = .writable id)
include separated serves backing

omit serves in
/-- What another mount serves is as before, whatever becomes of the volume. -/
theorem Separated.elsewhere (here : m ∈ fs.mounts) {n : MountPoint} (other : fs.Serves q n)
    (differs : n ≠ m) (v : Volume) : (fs.setVolume id v).has q = fs.has q ∧
      (fs.setVolume id v).isDirectory q = fs.isDirectory q ∧
      (fs.setVolume id v).read q = fs.read q := by
  have mine : id ∈ m.backing.tree.leaves := by
    rw [backing]
    exact .head _
  have tree := separated.mounts n other.mounted
  obtain ⟨rest, below⟩ := other.above
  obtain ⟨has, isDirectory, read⟩ : n.backing.tree.Unchanged fs.volumes
      (fs.setVolume id v).volumes (ofTrail rest) := by
    refine tree.unchanged (fun i inside => ?_) _
    show Mount.volumeAt (fs.volumes.set id v) i = _
    rw [volumeAt_set fs.volumes (separated.known m here id mine), if_neg]
    rintro rfl
    exact differs (separated.apart n other.mounted m here i inside mine)
  have located := separated.located
  have after := located.setVolume id v
  refine ⟨?_, ?_, ?_⟩
  · rw [(other.setVolume id v).has after below.symm, other.has located below.symm, has]
  · rw [(other.setVolume id v).isDirectory after below.symm,
      other.isDirectory located below.symm, isDirectory]
  · rw [(other.setVolume id v).read after below.symm, other.read located below.symm, read]

/-- What the same mount serves is the path itself, a directory above it, or as before. -/
theorem Separated.beside {rest : Trail} (below : trail path = trail m.location ++ rest)
    (done : ((fs.volume id).write (ofTrail rest) contents).1 = .ok ())
    (after : fs' = fs.setVolume id ((fs.volume id).write (ofTrail rest) contents).2)
    (own : fs.Serves q m) :
    (trail q = trail path ∧ fs'.has q = true ∧ fs'.isDirectory q = false ∧
      fs'.read q = .ok contents) ∨
    (trail q ≠ trail path ∧ trail q <+: trail path ∧ fs'.has q = true ∧
      fs'.isDirectory q = true ∧ (fs.has q = true →
        fs'.isDirectory q = fs.isDirectory q ∧ fs'.read q = fs.read q)) ∨
    (¬trail q <+: trail path ∧ fs'.has q = fs.has q ∧ fs'.isDirectory q = fs.isDirectory q ∧
      fs'.read q = fs.read q) := by
  have tree := (separated.volumes id).isTree
  obtain ⟨further, way⟩ := own.above
  have plain : Plain rest := by
    have whole := Path.trail_plain path
    rw [below] at whole
    exact (Path.plain_append.mp whole).2
  have plain' : Plain further := by
    have whole := Path.trail_plain q
    rw [← way] at whole
    exact (Path.plain_append.mp whole).2
  have before := own.writable separated.located backing way.symm
  have now : fs'.has q = ((fs.volume id).write (ofTrail rest) contents).2.has (ofTrail further) ∧
      fs'.isDirectory q =
        ((fs.volume id).write (ofTrail rest) contents).2.isDirectory (ofTrail further) ∧
      fs'.read q = ((fs.volume id).write (ofTrail rest) contents).2.read (ofTrail further) := by
    have mine : id ∈ m.backing.tree.leaves := by
      rw [backing]
      exact .head _
    have known := separated.known m serves.mounted id mine
    have replaced : fs'.volume id = ((fs.volume id).write (ofTrail rest) contents).2 := by
      rw [after]
      exact (volumeAt_set fs.volumes known _ id).trans (if_pos rfl)
    rw [← replaced]
    rw [after]
    exact (own.setVolume id _).writable (separated.located.setVolume id _) backing way.symm
  have held := tree.write_node? plain done plain'
  rw [before.1, before.2.1, before.2.2, now.1, now.2.1, now.2.2, ← way, below,
    ne_eq, List.append_cancel_left_eq, List.prefix_append_right_inj]
  by_cases mine : further = rest
  · rw [if_pos mine] at held
    exact .inl ⟨mine, Volume.answers_file held⟩
  rw [if_neg mine] at held
  by_cases onWay : further <+: rest
  · rw [if_pos onWay] at held
    obtain ⟨there, directory⟩ := Volume.answers_directory held
    refine .inr (.inl ⟨mine, onWay, there, directory, fun present => ?_⟩)
    have old := tree.write_above plain done onWay mine present
    exact (Volume.answers_congr (held.trans old.symm)).2
  · rw [if_neg onWay] at held
    exact .inr (.inr ⟨onWay, Volume.answers_congr held⟩)

theorem Separated.written {rest : Trail} (below : trail path = trail m.location ++ rest)
    (done : ((fs.volume id).write (ofTrail rest) contents).1 = .ok ())
    (after : fs' = fs.setVolume id ((fs.volume id).write (ofTrail rest) contents).2) :
    fs.Written fs' path contents := by
  have located := separated.located
  have located' : fs'.Located := after ▸ located.setVolume id _
  have beside {q : String} (own : fs.Serves q m) :=
    separated.beside serves backing below done after own
  have elsewhere {q : String} {n : MountPoint} (other : fs.Serves q n) (differs : n ≠ m) :=
    separated.elsewhere backing serves.mounted other differs
      ((fs.volume id).write (ofTrail rest) contents).2
  rw [← after] at elsewhere
  have mounts : fs'.mounts = fs.mounts := after ▸ rfl
  have comes {q : String} (absent : fs.has q = false) (present : fs'.has q = true) :
      trail q <+: trail path ∧ fs.Serves q m := by
    obtain ⟨n, here, above, deepest⟩ := serves_of_has located' present
    rw [mounts] at here deepest
    by_cases mine : n = m
    · have own : fs.Serves q m := mine ▸ ⟨here, above, deepest⟩
      rcases beside own with ⟨same, -⟩ | ⟨-, onWay, -⟩ | ⟨-, same, -⟩
      · exact ⟨same ▸ List.prefix_rfl, own⟩
      · exact ⟨onWay, own⟩
      · rw [same, absent] at present
        cases present
    · rw [(elsewhere ⟨here, above, deepest⟩ mine).1, absent] at present
      cases present
  refine ⟨fun q same => ?_, fun q apart present => ?_, fun q absent => ⟨fun present => ?_, ?_⟩,
    fun q apart absent present => ?_⟩
  · have there := normalize_eq_iff.mp same
    rcases beside (serves.congr there) with ⟨-, file⟩ | ⟨differs, -⟩ | ⟨off, -⟩
    · exact file
    · exact absurd there differs
    · exact absurd (there ▸ List.prefix_rfl) off
  · obtain ⟨n, own⟩ := serves_of_has located present
    by_cases mine : n = m
    · rcases beside (mine ▸ own) with ⟨same, -⟩ | ⟨-, -, there, -, kept⟩ | ⟨-, has, rest⟩
      · exact absurd (normalize_eq_iff.mpr same) apart
      · exact ⟨there, kept present⟩
      · exact ⟨has.trans present, rest⟩
    · obtain ⟨has, rest⟩ := elsewhere own mine
      exact ⟨has.trans present, rest⟩
  · obtain ⟨onWay, own⟩ := comes absent present
    exact ⟨onWay, m, serves, own⟩
  · rintro ⟨onWay, n, whole, own⟩
    rw [whole.unique located serves] at own
    rcases beside own with ⟨-, there, -⟩ | ⟨-, -, there, -⟩ | ⟨off, -⟩
    · exact there
    · exact there
    · exact absurd onWay off
  · obtain ⟨onWay, own⟩ := comes absent present
    rcases beside own with ⟨same, -⟩ | ⟨-, -, -, directory, -⟩ | ⟨off, -⟩
    · exact absurd (normalize_eq_iff.mpr same) apart
    · exact directory
    · exact absurd onWay off

end

/-! ## Refused writes -/

/-- What a write comes to: nobody serves the path, or a read-only mount, or a volume is written. -/
theorem write_inversion (located : fs.Located) (path : String) (contents : Bytes) :
    ((∀ m ∈ fs.mounts, ¬trail m.location <+: trail path) ∧
      fs.write path contents = (.error (.invalidPath (Path.normalize path)), fs)) ∨
    ∃ m, fs.Serves path m ∧ ((∃ tree, m.backing = .readOnly tree ∧
        fs.write path contents = (.error (.accessDenied (Path.normalize path)), fs)) ∨
      ∃ id rest, m.backing = .writable id ∧ trail path = trail m.location ++ rest ∧
        fs.write path contents = (((fs.volume id).write (ofTrail rest) contents).1,
          fs.setVolume id ((fs.volume id).write (ofTrail rest) contents).2)) := by
  cases found : fs.resolve (Path.normalize path) with
  | none =>
    refine .inl ⟨(resolve_eq_none_iff located).mp found, ?_⟩
    unfold FileSystem.write
    simp only
    rw [found]
  | some m =>
    have serves := (resolve_eq_some_iff located).mp found
    refine .inr ⟨m, serves, ?_⟩
    cases backing : m.backing with
    | readOnly tree =>
      refine .inl ⟨tree, rfl, ?_⟩
      unfold FileSystem.write
      simp only
      rw [found]
      simp only
      rw [backing]
    | writable id =>
      obtain ⟨rest, below⟩ := serves.above
      exact .inr ⟨id, rest, rfl, below.symm, serves.write located backing below.symm contents⟩

/-- In a writable mount a write is refused for what its volume refuses. -/
theorem Serves.refuses_iff (located : fs.Located) (serves : fs.Serves path m) {id : VolumeId}
    (backing : m.backing = .writable id) {rest : Trail}
    (below : trail path = trail m.location ++ rest) (contents : Bytes) :
    fs.Refuses path ↔ (fs.volume id).Refuses (.write (ofTrail rest) contents) := by
  have plain := Path.trail_plain path
  rw [below] at plain
  have rested := (Path.plain_append.mp plain).2
  constructor
  · rintro (nobody | ⟨other, readOnly⟩ | there | ⟨other, inside, onWay, short, file⟩)
    · exact absurd serves.above (nobody m serves.mounted)
    · rw [other.unique located serves, backing] at readOnly
      cases readOnly
    · rw [(serves.writable located backing below).2.1] at there
      exact .inl there
    · rw [other.unique located serves] at inside
      obtain ⟨further, way⟩ := inside.above
      rw [← way, below] at onWay short
      obtain ⟨left, rfl⟩ := (List.prefix_append_right_inj _).mp onWay
      rw [(inside.writable located backing way.symm).2.2, Volume.read_eq_ok_iff] at file
      refine .inr ⟨further, left, _, Path.trail_ofTrail rested, ?_, file⟩
      rintro rfl
      rw [List.append_nil] at short
      exact short rfl
  · rintro (there | ⟨further, left, text, whole, some, file⟩)
    · rw [← (serves.writable located backing below).2.1] at there
      exact .directory there
    · rw [Path.trail_ofTrail rested] at whole
      rw [whole, ← List.append_assoc] at below plain
      obtain ⟨above, way⟩ : ∃ above, trail above = trail m.location ++ further :=
        ⟨_, Path.trail_ofTrail (Path.plain_append.mp plain).1⟩
      have onWay : trail above <+: trail path := by
        rw [way, below]
        exact List.prefix_append _ left
      have inside : fs.Serves above m := by
        refine serves.between ?_ onWay
        rw [way]
        exact List.prefix_append _ further
      have read : fs.read above = .ok text := by
        rw [(inside.writable located backing way).2.2, Volume.read_eq_ok_iff]
        exact file
      refine .blocked serves inside onWay (fun same => ?_) read
      rw [way, below] at same
      exact some (List.append_right_eq_self.mp same.symm)

theorem Separated.setVolume (separated : fs.Separated) (id : VolumeId) {v : Volume}
    (edited : v.Edited) : (fs.setVolume id v).Separated := by
  refine ⟨separated.located.setVolume id v, fun other => ?_, separated.mounts,
    fun m here i inside => ?_, separated.apart⟩
  · rcases volume_setVolume fs id other v with new | old
    · rw [new]
      exact edited
    · rw [old]
      exact separated.volumes other
  · show i < (fs.volumes.set id v).length
    rw [List.length_set]
    exact separated.known m here i inside

/-- A write is refused just for the reasons that there are to refuse it, and then nothing changes.
If it succeeds, the file is read back under every spelling of its path; all else that existed is
there as before, and new are only the missing directories above the file, in the same mount. Either
way the next write meets such a file system again. -/
theorem written_or_refused (separated : fs.Separated) (path : String) (contents : Bytes) :
    ((fs.write path contents).1 = .ok () ↔ ¬fs.Refuses path) ∧
    ((fs.write path contents).1 = .ok () →
      fs.Written (fs.write path contents).2 path contents) ∧
    ((fs.write path contents).1 ≠ .ok () → (fs.write path contents).2 = fs) ∧
    (fs.write path contents).2.Separated := by
  have located := separated.located
  rcases write_inversion located path contents with ⟨nobody, came⟩ | ⟨m, serves,
    ⟨tree, backing, came⟩ | ⟨id, rest, backing, below, came⟩⟩
  · rw [came]
    exact ⟨iff_of_false nofun fun clear => clear (.unserved nobody), nofun, fun _ => rfl, separated⟩
  · rw [came]
    exact ⟨iff_of_false nofun fun clear => clear (.readOnly serves backing), nofun, fun _ => rfl,
      separated⟩
  · have plain : Plain rest := by
      have whole := Path.trail_plain path
      rw [below] at whole
      exact (Path.plain_append.mp whole).2
    have edited := separated.volumes id
    have normal := Path.normalize_ofTrail plain
    obtain ⟨refused, whole⟩ := edited.isTree.write_whole normal contents
    rw [came, serves.refuses_iff located backing below contents]
    have still := separated.setVolume id (edited.edit (.write (ofTrail rest) contents) normal)
    refine ⟨refused, fun done => separated.written serves backing below done rfl,
      fun failed => ?_, still⟩
    have unmoved : ((fs.volume id).write (ofTrail rest) contents).2 = fs.volume id := whole failed
    show fs.setVolume id _ = fs
    rw [unmoved, setVolume_volume]

/-! ## A volume inside read-only layers -/

theorem shelf_separated : shelf.Separated := by
  refine ⟨shelf_grown.built.located, fun id => ?_, fun m here => ?_, ?_, ?_⟩
  · match id with
    | 0 => exact .edit .empty (.write "rom/a" []) rfl
    | 1 => exact .edit .empty (.write "rom/b" []) rfl
    | 2 => exact .empty
    | _ + 3 => exact .empty
  · rcases List.mem_pair.mp here with rfl | rfl
    · refine .layered fun m here => ?_
      rcases List.mem_pair.mp here with rfl | rfl
      · exact .volume 0
      · exact .volume 1
    · exact .volume 2
  · decide
  · intro m here n there id inside too
    rcases List.mem_pair.mp here with rfl | rfl <;> rcases List.mem_pair.mp there with rfl | rfl
    · rfl
    · obtain rfl := List.mem_singleton.mp too
      exact absurd inside (by decide)
    · obtain rfl := List.mem_singleton.mp inside
      exact absurd too (by decide)
    · rfl

/-- A file is written inside the layers, and nothing can be written into the layers themselves. -/
theorem written_or_refused_shelf : shelf.Separated ∧
    (shelf.write "disk//rom/c/x/y" [7]).1 = .ok () ∧
    (shelf.write "disk//rom/c/x/y" [7]).2.read "/disk/rom/c/./x/y" = .ok [7] ∧
    (shelf.write "disk//rom/c/x/y" [7]).2.isDirectory "disk/rom/c/x" = true ∧
    (shelf.write "disk//rom/c/x/y" [7]).2.read "disk/rom/a" = shelf.read "disk/rom/a" ∧
    (shelf.write "disk/rom/z" []).2 = shelf := by
  have done : (shelf.write "disk//rom/c/x/y" [7]).1 = .ok () := rfl
  obtain ⟨-, changed, -, -⟩ := written_or_refused shelf_separated "disk//rom/c/x/y" [7]
  obtain ⟨-, -, unchanged, -⟩ := written_or_refused shelf_separated "disk/rom/z" []
  have written := changed done
  have made : (shelf.write "disk//rom/c/x/y" [7]).2.has "disk/rom/c/x" = true := rfl
  refine ⟨shelf_separated, done, (written.file _ rfl).2.2,
    written.directories _ (by decide) rfl made, (written.kept _ (by decide) rfl).2.2,
    unchanged (by decide)⟩

end FileSystem

end DeviceBridge
