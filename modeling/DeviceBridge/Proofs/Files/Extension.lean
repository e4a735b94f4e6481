import DeviceBridge.Proofs.Files.Listings
import DeviceBridge.Proofs.Files.Ownership

/-
  A mount of an access extends the file system and takes nothing away. The access mounts only where
  nothing exists, and what it mounts is in the way of every path below; none of these can exist,
  since the mount that serves them would have the directories on the way to them as well
  (`Serves.extended`). So what existed is served as before (`mount_extends`).
-/

namespace DeviceBridge

open DeviceBridge.Path (Trail Plain trail ofTrail)

namespace FileSystem

variable {fs fs' : FileSystem} {m new : MountPoint} {path : String}

/-- With every path a mount has the directories on the way to it. -/
def PrefixClosed (fs : FileSystem) : Prop :=
  ∀ m ∈ fs.mounts, m.backing.tree.PrefixClosed fs.volumes

theorem Wooded.prefixClosed (wooded : fs.Wooded) : fs.PrefixClosed :=
  fun _ here => (wooded.isTree here).prefixClosed

/-- What exists is answered as before. -/
structure Extends (fs fs' : FileSystem) : Prop where
  has : ∀ path, fs.has path = true → fs'.has path = true
  isDirectory : ∀ path, fs.has path = true → fs'.isDirectory path = fs.isDirectory path
  read : ∀ path, fs.has path = true → fs'.read path = fs.read path
  labelOf : ∀ path, fs.has path = true → fs'.labelOf path = fs.labelOf path

/-- Answers depend on the volumes and on which mount serves the path. -/
theorem Extends.of_resolve (volumes : fs'.volumes = fs.volumes)
    (same : ∀ path, fs.has path = true →
      fs'.resolve (Path.normalize path) = fs.resolve (Path.normalize path)) : fs.Extends fs' := by
  refine ⟨fun path present => ?_, fun path present => ?_, fun path present => ?_,
    fun path present => ?_⟩
  · have before := present
    unfold FileSystem.has at present ⊢
    simp only at present ⊢
    rw [same path before, volumes]
    exact present
  · unfold FileSystem.isDirectory
    simp only
    rw [same path present, volumes]
  · unfold FileSystem.read
    simp only
    rw [same path present, volumes]
  · unfold FileSystem.labelOf
    rw [same path present]

/-- A new mount where nothing is leaves what exists to the mount that served it. -/
theorem Serves.extended (located : fs.Located) (closed : fs.PrefixClosed)
    (serves : fs.Serves path m) (present : fs.has path = true)
    (absent : fs.has new.location = false) (mounts : fs'.mounts = fs.mounts ++ [new]) :
    fs'.Serves path m := by
  refine ⟨mounts ▸ List.mem_append_left _ serves.mounted, serves.above, fun other there above => ?_⟩
  rw [mounts] at there
  rcases List.mem_append.mp there with old | last
  · exact serves.deepest other old above
  · rw [List.mem_singleton.mp last] at above ⊢
    rcases List.prefix_or_prefix_of_prefix above serves.above with shorter | ⟨down, inside⟩
    · exact shorter
    · -- The new location is on the way from the old mount to the path, so it exists there.
      obtain ⟨further, whole⟩ := above
      have plain := Path.trail_plain path
      have own : fs.Serves new.location m := by
        refine ⟨serves.mounted, ⟨down, inside⟩, fun other old reaches => ?_⟩
        exact serves.deepest other old (reaches.trans ⟨further, whole⟩)
      have way : trail path = trail m.location ++ (down ++ further) := by
        rw [← List.append_assoc, inside, whole]
      rw [serves.has located way] at present
      rw [way] at plain
      rw [own.has located inside.symm, closed m serves.mounted down further
        (Path.plain_append.mp plain).2 present] at absent
      cases absent

theorem extends_of_mount (located : fs.Located) (closed : fs.PrefixClosed) (new : MountPoint)
    (normal : Path.normalize new.location = new.location) (free : new.location ∉ fs.locations)
    (absent : fs.has new.location = false) (volumes : fs'.volumes = fs.volumes)
    (mounts : fs'.mounts = fs.mounts ++ [new]) : fs.Extends fs' := by
  refine .of_resolve volumes fun path present => ?_
  obtain ⟨m, serves⟩ := serves_of_has located present
  have after := serves.extended located closed present absent mounts
  rw [(resolve_eq_some_iff located).mpr serves,
    (resolve_eq_some_iff (located.add new normal free mounts)).mpr after]

end FileSystem

namespace Host

variable {h h' : Host} {id : AccessId} {location drive : String} {backing : Backing}

/-! ## Mounts of an attached access -/

/-- An attached access gets its location, or it learns that this is taken and nothing changes. -/
theorem mountFor_cases (attached : h.isAttached id = true) (location drive : String)
    (backing : Backing) : h.mountFor id location backing drive = (.ok none, h) ∨
      ∃ h', h.mountFor id location backing drive = (.ok (some (Path.normalize location)), h') ∧
        h.files.has (Path.normalize location) = false ∧ h'.files.volumes = h.files.volumes := by
  unfold mountFor
  rw [attached]
  simp only [Bool.not_true, Bool.false_eq_true, if_false]
  split
  · exact .inl rfl
  · next absent =>
    split
    · exact .inl rfl
    · next files mount =>
      obtain ⟨-, volumes, -⟩ := FileSystem.mountAt_ok mount
      exact .inr ⟨_, rfl, Bool.eq_false_iff.mpr absent, volumes⟩

/-- An attached access can unmount what it has mounted, spelled in any way. -/
theorem unmountFor_mounted (attached : h.isAttached id = true)
    (mine : Path.normalize location ∈ h.mounted id) : ∃ h',
      h.unmountFor id location = (.ok (), h') ∧
        h'.files = (h.files.unmount (Path.normalize location)).2 := by
  obtain ⟨a, found⟩ := access?_of_isAttached attached
  rw [mounted_of_access? found] at mine
  unfold unmountFor
  rw [attached, found]
  simp only [Bool.not_true, Bool.false_eq_true, if_false]
  rw [if_pos mine]
  exact ⟨_, rfl, rfl⟩

/-- To unmount a mount again gives back the file system as it was. -/
theorem unmountFor_mountFor {path spelled : String}
    (done : h.mountFor id location backing drive = (.ok (some path), h'))
    (volumes : h'.files.volumes = h.files.volumes) (same : Path.normalize spelled = path) :
    ∃ h'', h'.unmountFor id spelled = (.ok (), h'') ∧ h''.files = h.files := by
  obtain ⟨normal, free, attached, mounts, kept, lists⟩ := mountFor_ok done
  have mine : Path.normalize spelled ∈ h'.mounted id := by
    rw [same, lists, if_pos rfl]
    split
    · next old => exact old
    · exact List.mem_append_right _ (.head _)
  obtain ⟨h'', unmounted, files⟩ := unmountFor_mounted ((kept id).trans attached) mine
  refine ⟨h'', unmounted, ?_⟩
  have gone : h'.files.mounts.filter (·.location ≠ path) = h.files.mounts :=
    FileSystem.filter_mounted mounts rfl free
  rw [files]
  unfold FileSystem.unmount
  simp only
  rw [Path.normalize_normalize, same, gone, volumes]

/-- In a file system where every mount has the directories on the way to what it has: a mount of an
attached access is refused and changes nothing, or it succeeds. Then every path that existed is
answered as before, and when the access unmounts the location again, by any spelling of it, the file
system is what it was. Volumes that change under normalised paths have the directories on the way,
and so have layers of what has them. -/
theorem mount_extends (built : h.files.Built) (closed : h.files.PrefixClosed)
    (attached : h.isAttached id = true) (location drive : String) (backing : Backing) :
    (h.mountFor id location backing drive = (.ok none, h) ∨
      ∃ h', h.mountFor id location backing drive = (.ok (some (Path.normalize location)), h') ∧
        h.files.Extends h'.files ∧
        ∀ spelled, Path.normalize spelled = Path.normalize location →
          ∃ h'', h'.unmountFor id spelled = (.ok (), h'') ∧ h''.files = h.files) ∧
    (∀ volumes id, (Mount.volumeAt volumes id).Edited →
      (Mount.volume id).PrefixClosed volumes) ∧
    ∀ volumes layers, (∀ m ∈ layers, Mount.PrefixClosed volumes m) →
      (Mount.layered layers).PrefixClosed volumes := by
  refine ⟨?_, fun volumes id edited => (Mount.IsTree.volume edited.isTree).prefixClosed,
    fun volumes layers => Mount.PrefixClosed.layered⟩
  refine (mountFor_cases attached location drive backing).imp_right ?_
  rintro ⟨h', done, absent, volumes⟩
  obtain ⟨-, free, -, mounts, -⟩ := mountFor_ok done
  have extends' := FileSystem.extends_of_mount built.located closed
    ⟨drive, Path.normalize location, backing⟩ (Path.normalize_normalize location) free absent
    volumes mounts
  exact ⟨h', done, extends', fun spelled same => unmountFor_mountFor done volumes same⟩

/-! ## A mount inside layers -/

/-- A depot attached beside layers with a mount below them. -/
def depotShelf : Host := { depotAttached with files := FileSystem.shelf }

/-- It mounts next to a file of the layers, which is still there. -/
theorem mount_extends_depot : ∃ h',
    depotShelf.mountFor ⟨.left, 0⟩ "disk//rom/d/" (.writable 2) "disk" =
      (.ok (some "disk/rom/d"), h') ∧
    h'.files.has "disk/rom/a" = true ∧ h'.files.labelOf "disk/rom/c" = some "inner" ∧
    ∃ h'', h'.unmountFor ⟨.left, 0⟩ "/disk/rom/d" = (.ok (), h'') ∧
      h''.files = FileSystem.shelf := by
  have attached : depotShelf.isAttached ⟨.left, 0⟩ = true := rfl
  have mounts : (depotShelf.mountFor ⟨.left, 0⟩ "disk//rom/d/" (.writable 2) "disk").1 =
      .ok (some "disk/rom/d") := rfl
  obtain ⟨refused | ⟨h', done, extends', undo⟩, -⟩ := mount_extends FileSystem.shelf_grown.built
    FileSystem.shelf_grown.wooded.prefixClosed attached "disk//rom/d/" "disk" (.writable 2)
  · rw [refused] at mounts
    cases mounts
  · refine ⟨h', done, extends'.has "disk/rom/a" rfl, ?_, undo "/disk/rom/d" rfl⟩
    exact (extends'.labelOf "disk/rom/c" rfl).trans rfl

end Host

end DeviceBridge
