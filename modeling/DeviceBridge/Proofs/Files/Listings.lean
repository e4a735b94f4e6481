import DeviceBridge.Proofs.Files.Resolution
import DeviceBridge.Proofs.Files.Trees

/-
  Listings agree with what exists. A directory is listed by the mount that serves it, and the mounts
  directly below it are added to the names, while a path below is looked up anew, maybe in another
  mount. Both say the same in every file system that mounts, unmounts and writes lead to
  (`listing_agrees`): what is mounted are trees (`Wooded`), so each mount adds the name of a
  directory that exists (`has_child_iff`).
-/

namespace DeviceBridge.FileSystem

open DeviceBridge.Path (Trail Plain IsPlain trail ofTrail)

variable {fs fs' : FileSystem} {m : MountPoint} {path : String}

/-! ## File systems of trees -/

/-- What comes of mounting and unmounting volumes and layers of volumes, and of writing. -/
inductive Grown : FileSystem → Prop where
  | empty : Grown FileSystem.empty
  | volume {fs : FileSystem} (before : Grown fs) {v : Volume} (edited : v.Edited) :
      Grown (fs.addVolume v).2
  | edit {fs : FileSystem} (before : Grown fs) (id : VolumeId) (e : Volume.Edit)
      (normal : Path.normalize e.path = e.path) :
      Grown (fs.setVolume id (e.perform (fs.volume id)).2)
  | mount {fs fs' : FileSystem} {label location : String} {backing : Backing} (before : Grown fs)
      (made : backing.tree.OfVolumes)
      (done : fs.mountAt label location backing = (.ok (), fs')) : Grown fs'
  | unmount {fs : FileSystem} (before : Grown fs) (location : String) :
      Grown (fs.unmount location).2
  | write {fs : FileSystem} (before : Grown fs) (path : String) (contents : Bytes) :
      Grown (fs.write path contents).2

/-- Whatever is mounted is made of volumes that are trees. -/
structure Wooded (fs : FileSystem) : Prop where
  located : fs.Located
  volumes : ∀ id, (fs.volume id).IsTree
  mounts : ∀ m ∈ fs.mounts, m.backing.tree.OfVolumes

theorem volume_addVolume (fs : FileSystem) (v : Volume) (id : VolumeId) :
    (fs.addVolume v).2.volume id = v ∨ (fs.addVolume v).2.volume id = fs.volume id := by
  unfold volume addVolume Mount.volumeAt
  rw [List.getElem?_append]
  split
  · exact .inr rfl
  · next behind =>
    rcases Nat.eq_zero_or_pos (id - fs.volumes.length) with last | further
    · rw [last]
      exact .inl rfl
    · rw [List.getElem?_eq_none (show [v].length ≤ id - fs.volumes.length from further),
        List.getElem?_eq_none (Nat.le_of_not_lt behind)]
      exact .inr rfl

theorem volume_setVolume (fs : FileSystem) (id other : VolumeId) (v : Volume) :
    (fs.setVolume id v).volume other = v ∨ (fs.setVolume id v).volume other = fs.volume other := by
  unfold volume setVolume Mount.volumeAt
  rw [List.getElem?_set]
  split
  · split
    · exact .inl rfl
    · next same beyond =>
      rw [← same, List.getElem?_eq_none (Nat.le_of_not_lt beyond)]
      exact .inr rfl
  · exact .inr rfl

/-- A write changes at most the volume that serves the path, under what is left of the path. -/
theorem write_cases (located : fs.Located) (path : String) (contents : Bytes) :
    (fs.write path contents).2 = fs ∨ ∃ id t, Plain t ∧
      (fs.write path contents).2 =
        fs.setVolume id ((fs.volume id).write (ofTrail t) contents).2 := by
  unfold write
  simp only
  cases found : fs.resolve (Path.normalize path) with
  | none => exact .inl rfl
  | some m =>
    simp only
    split
    · exact .inl rfl
    · next id writable =>
      have serves := (resolve_eq_some_iff located).mp found
      obtain ⟨rest, below⟩ := serves.above
      have plain := Path.trail_plain path
      rw [← below] at plain
      refine .inr ⟨id, rest, (Path.plain_append.mp plain).2, ?_⟩
      rw [Path.relative_normalize (located.normal m serves.mounted) below.symm]

namespace Wooded

theorem setVolume (wooded : fs.Wooded) (id : VolumeId) {v : Volume} (tree : v.IsTree) :
    (fs.setVolume id v).Wooded := by
  refine ⟨⟨wooded.located.normal, wooded.located.distinct⟩, fun other => ?_, wooded.mounts⟩
  rcases volume_setVolume fs id other v with new | old
  · rw [new]
    exact tree
  · rw [old]
    exact wooded.volumes other

theorem addVolume (wooded : fs.Wooded) {v : Volume} (tree : v.IsTree) :
    (fs.addVolume v).2.Wooded := by
  refine ⟨⟨wooded.located.normal, wooded.located.distinct⟩, fun id => ?_, wooded.mounts⟩
  rcases volume_addVolume fs v id with new | old
  · rw [new]
    exact tree
  · rw [old]
    exact wooded.volumes id

theorem isTree (wooded : fs.Wooded) (here : m ∈ fs.mounts) : m.backing.tree.IsTree fs.volumes :=
  (wooded.mounts m here).isTree wooded.volumes

end Wooded

/-- The table of such a file system is one of any mounts and unmounts. -/
theorem Grown.built (grown : fs.Grown) : fs.Built := by
  induction grown with
  | empty => exact .empty
  | volume _ _ ih => exact ih.volumes _
  | edit _ _ _ _ ih => exact ih.volumes _
  | mount _ _ done ih => exact ih.mount done
  | unmount _ location ih => exact ih.unmount location
  | write _ path contents ih =>
    rcases write_cases ih.located path contents with same | ⟨id, t, -, changed⟩
    · rw [same]
      exact ih
    · rw [changed]
      exact ih.volumes _

/-- By induction on the steps. -/
theorem Grown.wooded (grown : fs.Grown) : fs.Wooded := by
  induction grown with
  | empty =>
    exact ⟨Built.empty.located, fun id => .empty, fun m here => absurd here List.not_mem_nil⟩
  | volume _ edited ih => exact ih.addVolume edited.isTree
  | edit _ id e normal ih => exact ih.setVolume id ((ih.volumes id).edit e normal)
  | @mount fs fs' label location backing before made done ih =>
    obtain ⟨-, volumes, mounts⟩ := mountAt_ok done
    refine ⟨(before.built.mount done).located, fun id => ?_, fun m here => ?_⟩
    · unfold FileSystem.volume
      rw [volumes]
      exact ih.volumes id
    · rw [mounts] at here
      rcases List.mem_append.mp here with old | new
      · exact ih.mounts m old
      · rw [List.mem_singleton.mp new]
        exact made
  | unmount before location ih =>
    exact ⟨(before.built.unmount location).located, ih.volumes,
      fun m here => ih.mounts m (List.mem_of_mem_filter here)⟩
  | write _ path contents ih =>
    rcases write_cases ih.located path contents with same | ⟨id, t, plain, changed⟩
    · rw [same]
      exact ih
    · rw [changed]
      exact ih.setVolume id ((ih.volumes id).write (Path.normalize_ofTrail plain) contents)

/-! ## Children of a path -/

/-- The names that are added to a listing are those of the mounts directly below. -/
theorem mem_mountsBelow (located : fs.Located) {name : String} :
    name ∈ fs.mountsBelow (Path.normalize path) ↔
      IsPlain name.toList ∧ ∃ m ∈ fs.mounts, trail m.location = trail path ++ [name.toList] := by
  unfold mountsBelow locations
  rw [List.mem_map]
  constructor
  · rintro ⟨l, here, rfl⟩
    obtain ⟨here, fits⟩ := List.mem_filter.mp here
    obtain ⟨below, parent⟩ := of_decide_eq_true fits
    obtain ⟨m, mounted, rfl⟩ := List.mem_map.mp here
    rcases Path.root_or_below (located.normal m mounted) with root | ⟨t, p, plain, text⟩
    · exact absurd root below
    · obtain ⟨above, last⟩ := Path.plain_append.mp plain
      have last := Path.plain_single.mp last
      rw [text, Path.parent_ofTrail last] at parent
      have same := (Path.ofTrail_inj above (Path.trail_plain path)).mp parent
      rw [text, Path.name_ofTrail last, String.toList_ofList]
      refine ⟨last, m, mounted, ?_⟩
      rw [text, Path.trail_ofTrail plain, same]
  · rintro ⟨last, m, here, below⟩
    have text : m.location = ofTrail (trail path ++ [name.toList]) := by
      rw [← below, Path.ofTrail_trail (located.normal m here)]
    have plain : Plain (trail path ++ [name.toList]) := below ▸ Path.trail_plain m.location
    refine ⟨m.location, List.mem_filter.mpr ⟨List.mem_map_of_mem here, decide_eq_true ⟨?_, ?_⟩⟩, ?_⟩
    · rw [text, Ne, Path.ofTrail_eq_empty plain]
      simp
    · rw [text, Path.parent_ofTrail last]
      rfl
    · rw [text, Path.name_ofTrail last, String.ofList_toList]

/-- Where no mount sits at a child, the child is served by what serves its parent. -/
theorem serves_child_iff {name : String} (last : IsPlain name.toList)
    (free : ∀ m ∈ fs.mounts, trail m.location ≠ trail path ++ [name.toList]) :
    fs.Serves (path ++ "/" ++ name) m ↔ fs.Serves path m := by
  have through {m : MountPoint} (here : m ∈ fs.mounts) :
      trail m.location <+: trail (path ++ "/" ++ name) ↔ trail m.location <+: trail path := by
    rw [Path.trail_child path last, List.prefix_concat_iff, or_iff_right (free m here)]
  constructor
  · rintro ⟨here, above, deepest⟩
    exact ⟨here, (through here).mp above,
      fun other there below => deepest other there ((through there).mpr below)⟩
  · rintro ⟨here, above, deepest⟩
    exact ⟨here, (through here).mpr above,
      fun other there below => deepest other there ((through there).mp below)⟩

/-- A mount that sits at a path serves it. -/
theorem serves_of_trail (here : m ∈ fs.mounts) (there : trail m.location = trail path) :
    fs.Serves path m :=
  ⟨here, there ▸ List.prefix_rfl, fun _ _ above => there ▸ above⟩

/-- A child exists in what serves its parent, or a mount sits there. -/
theorem Wooded.has_child_iff (wooded : fs.Wooded) (serves : fs.Serves path m) {rest : Trail}
    (below : trail path = trail m.location ++ rest) {name : String} (last : IsPlain name.toList) :
    fs.has (path ++ "/" ++ name) = true ↔
      m.backing.tree.has fs.volumes (ofTrail (rest ++ [name.toList])) = true ∨
        ∃ other ∈ fs.mounts, trail other.location = trail path ++ [name.toList] := by
  have child := Path.trail_child path last
  by_cases mounted : ∃ other ∈ fs.mounts, trail other.location = trail path ++ [name.toList]
  · rw [or_iff_right_of_imp fun _ => mounted]
    refine iff_of_true ?_ mounted
    obtain ⟨other, there, same⟩ := mounted
    have own := serves_of_trail there (same.trans child.symm)
    have tree := wooded.isTree there
    have whole : trail (path ++ "/" ++ name) = trail other.location ++ [] := by
      rw [List.append_nil, same, child]
    rw [own.has wooded.located whole]
    exact tree.present _ tree.root
  · rw [or_iff_left mounted]
    have free : ∀ other ∈ fs.mounts, trail other.location ≠ trail path ++ [name.toList] :=
      fun other there same => mounted ⟨other, there, same⟩
    have same := (serves_child_iff last free).mpr serves
    rw [same.has wooded.located (by rw [child, below, List.append_assoc])]

/-! ## Listings -/

section

variable (wooded : fs.Wooded)
include wooded

/-- What serves a path is a tree, and is asked for what is left of the path. -/
theorem Wooded.tree_of_serves (serves : fs.Serves path m) : ∃ rest,
    trail path = trail m.location ++ rest ∧ Plain rest ∧ m.backing.tree.IsTree fs.volumes := by
  obtain ⟨rest, below⟩ := serves.above
  have plain := Path.trail_plain path
  rw [← below] at plain
  exact ⟨rest, below.symm, (Path.plain_append.mp plain).2, wooded.isTree serves.mounted⟩

theorem Wooded.list_refused (other : fs.isDirectory path = false) :
    ∃ e, fs.list path = .error e := by
  cases found : fs.resolve (Path.normalize path) with
  | none =>
    unfold list
    simp only
    rw [found]
    exact ⟨_, rfl⟩
  | some m =>
    have serves := (resolve_eq_some_iff wooded.located).mp found
    obtain ⟨rest, below, plain, tree⟩ := wooded.tree_of_serves serves
    rw [serves.isDirectory wooded.located below] at other
    obtain ⟨e, refused⟩ := tree.refuses rest plain other
    rw [serves.list wooded.located below, refused]
    exact ⟨e, rfl⟩

theorem Wooded.list_names (directory : fs.isDirectory path = true) : ∃ names,
    fs.list path = .ok names ∧ names.Nodup ∧ ∀ name : String,
      name ∈ names ↔ IsPlain name.toList ∧ fs.has (path ++ "/" ++ name) = true := by
  cases found : fs.resolve (Path.normalize path) with
  | none =>
    unfold isDirectory at directory
    simp only at directory
    rw [found] at directory
    cases directory
  | some m =>
    have serves := (resolve_eq_some_iff wooded.located).mp found
    obtain ⟨rest, below, plain, tree⟩ := wooded.tree_of_serves serves
    rw [serves.isDirectory wooded.located below] at directory
    obtain ⟨entries, listed, once, mem⟩ := tree.lists rest plain directory
    rw [serves.list wooded.located below, listed]
    refine ⟨_, rfl, mergeNames_nodup _ once, fun name => ?_⟩
    rw [mem_mergeNames, mem, mem_mountsBelow wooded.located, ← and_or_left]
    exact and_congr_right fun last => (wooded.has_child_iff serves below last).symm

end

/-- In every file system that comes of mounting and unmounting volumes and layers of volumes, and of
writing: just the directories can be listed. A listing names no entry twice, each name is a single
component, and it is listed if and only if there is something at the path with the name behind
it. -/
theorem listing_agrees (grown : fs.Grown) (path : String) :
    ((∃ names, fs.list path = .ok names) ↔ fs.isDirectory path = true) ∧
    ∀ names, fs.list path = .ok names → names.Nodup ∧ ∀ name : String,
      name ∈ names ↔ IsPlain name.toList ∧ fs.has (path ++ "/" ++ name) = true := by
  cases directory : fs.isDirectory path with
  | false =>
    obtain ⟨e, refused⟩ := grown.wooded.list_refused directory
    rw [refused]
    refine ⟨iff_of_false ?_ Bool.false_ne_true, ?_⟩
    · rintro ⟨names, listed⟩
      cases listed
    · intro names listed
      cases listed
  | true =>
    obtain ⟨entries, listed, agrees⟩ := grown.wooded.list_names directory
    rw [listed]
    refine ⟨iff_of_true ⟨entries, rfl⟩ rfl, ?_⟩
    intro names same
    cases same
    exact agrees

/-! ## Layers with a mount below them -/

def volumeWith (file : String) : Volume := ((Volume.Edit.write file []).perform .empty).2

/-- Two volumes with a directory each of the same name, and an empty one. -/
def shelfVolumes : FileSystem :=
  ((((empty.addVolume (volumeWith "rom/a")).2.addVolume (volumeWith "rom/b")).2.addVolume
    .empty).2)

def shelfLayers : Backing := .readOnly (.layered [.volume 0, .volume 1])

def shelfOuter : FileSystem := (shelfVolumes.mountAt "layers" "disk" shelfLayers).2

/-- The two as layers, and the empty volume mounted inside their directory. -/
def shelf : FileSystem := (shelfOuter.mountAt "inner" "disk/rom/c" (.writable 2)).2

theorem shelfLayers_ofVolumes : shelfLayers.tree.OfVolumes := by
  refine .layered (List.cons_ne_nil _ _) fun m here => ?_
  rcases List.mem_pair.mp here with rfl | rfl
  · exact .volume 0
  · exact .volume 1

theorem shelf_grown : shelf.Grown := by
  have first : (volumeWith "rom/a").Edited := .edit .empty (.write "rom/a" []) rfl
  have second : (volumeWith "rom/b").Edited := .edit .empty (.write "rom/b" []) rfl
  have volumes : shelfVolumes.Grown := ((Grown.empty.volume first).volume second).volume .empty
  have outer : shelfVolumes.mountAt "layers" "disk" shelfLayers = (.ok (), shelfOuter) := rfl
  have inner : shelfOuter.mountAt "inner" "disk/rom/c" (.writable 2) = (.ok (), shelf) := rfl
  have made : (Backing.writable 2).tree.OfVolumes := .volume 2
  exact (volumes.mount shelfLayers_ofVolumes outer).mount made inner

/-- Both layers and the mount are in the listing. -/
theorem listing_agrees_shelf : shelf.list "disk/rom" = .ok ["b", "a", "c"] ∧
    shelf.isDirectory "disk/rom" = true ∧
    ∀ name : String, IsPlain name.toList ∧ shelf.has ("disk/rom" ++ "/" ++ name) = true ↔
      name ∈ ["b", "a", "c"] := by
  have listed : shelf.list "disk/rom" = .ok ["b", "a", "c"] := rfl
  obtain ⟨directories, entries⟩ := listing_agrees shelf_grown "disk/rom"
  exact ⟨listed, directories.mp ⟨_, listed⟩, fun name => ((entries _ listed).2 name).symm⟩

end DeviceBridge.FileSystem
