import DeviceBridge.Proofs.Files.Layers

/-
  What size a tree of layers gives for a path. However the layers are nested, it is that of the
  topmost volume that has the path (`Composed.shows`), and for a directory that is none. What is
  read comes from the topmost layer that has a file, which is the same volume only if there is no
  directory at the path (`size_of_read`).
-/

namespace DeviceBridge

/-- The length of a file. Directories have none. -/
def Node.length : Node → Nat
  | .directory => 0
  | .file contents => contents.length

theorem Volume.size_of_node {v : Volume} {path : String} {node : Node}
    (held : v.node? path = some node) : v.size path = .ok node.length := by
  unfold Volume.size
  rw [held]
  cases node <;> rfl

namespace Mount

variable {volumes : List Volume} {m : Mount} {layers : List Mount} {path : String}

/-! ## The topmost volume -/

/-- The topmost volume that has a path. -/
def topmost? (volumes : List Volume) (m : Mount) (path : String) : Option VolumeId :=
  m.leaves.reverse.find? fun id => (volumeAt volumes id).has path

theorem topmost?_cons : (layered (m :: layers)).topmost? volumes path =
    ((layered layers).topmost? volumes path).or (m.topmost? volumes path) := by
  show (leaves m ++ leavesOf layers).reverse.find? _ = _
  rw [List.reverse_append, List.find?_append]
  rfl

/-- What the topmost volume with the path has there is what the size is of, and also what is read if
there is no directory. -/
structure Shows (volumes : List Volume) (m : Mount) (path : String) (id : VolumeId) (node : Node) :
    Prop where
  top : m.topmost? volumes path = some id
  held : (volumeAt volumes id).node? path = some node
  size : m.size volumes path = .ok node.length
  file : m.isDirectory volumes path = false →
    ∃ contents, node = .file contents ∧ m.read volumes path = .ok contents

/-- Either no volume has the path, or the topmost one shows. -/
def Faced (volumes : List Volume) (m : Mount) (path : String) : Prop :=
  (m.has volumes path = false ∧ m.topmost? volumes path = none) ∨
    m.has volumes path = true ∧ ∃ id node, m.Shows volumes path id node

theorem eq_some_of_getD {α : Type} {found : Option (Except FileError α)} {e : FileError} {a : α}
    (answer : found.getD (.error e) = .ok a) : found = some (.ok a) := by
  cases found with
  | none => cases answer
  | some answered => exact congrArg some answer

/-- The layers above show, whatever lies below them. -/
theorem Shows.above {id : VolumeId} {node : Node}
    (shows : (layered layers).Shows volumes path id node) :
    (layered (m :: layers)).Shows volumes path id node := by
  obtain ⟨top, held, size, file⟩ := shows
  refine ⟨?_, held, ?_, fun flat => ?_⟩
  · rw [topmost?_cons, top, Option.some_or]
  · rw [size_layered, sizeLayers_cons, eq_some_of_getD size]
    rfl
  · obtain ⟨contents, same, found⟩ := file (Bool.or_eq_false_iff.mp flat).1
    refine ⟨contents, same, ?_⟩
    rw [read_layered, readLayers_cons, eq_some_of_getD found]
    rfl

/-- The lowest layer shows where none above has the path. -/
theorem Shows.below {id : VolumeId} {node : Node} (present : m.has volumes path = true)
    (shows : m.Shows volumes path id node) (absent : (layered layers).has volumes path = false)
    (nobody : (layered layers).topmost? volumes path = none) :
    (layered (m :: layers)).Shows volumes path id node := by
  obtain ⟨top, held, size, file⟩ := shows
  have unsized : sizeLayers volumes layers path = none := by
    rw [← Option.not_isSome_iff_eq_none, sizeLayers_isSome]
    exact Bool.eq_false_iff.mp absent
  refine ⟨?_, held, ?_, fun flat => ?_⟩
  · rw [topmost?_cons, nobody, top, Option.none_or]
  · rw [size_layered, sizeLayers_cons, unsized, present]
    exact size
  · obtain ⟨others, own⟩ := Bool.or_eq_false_iff.mp flat
    have unread : readLayers volumes layers path = none := by
      rw [← Option.not_isSome_iff_eq_none, readLayers_isSome others]
      exact Bool.eq_false_iff.mp absent
    obtain ⟨contents, same, found⟩ := file own
    refine ⟨contents, same, ?_⟩
    rw [read_layered, readLayers_cons, unread, present, own]
    exact found

/-- By induction on the layers. -/
theorem faced_layered (each : ∀ m ∈ layers, m.Faced volumes path) :
    (layered layers).Faced volumes path := by
  induction layers with
  | nil => exact .inl ⟨rfl, rfl⟩
  | cons m above ih =>
    rcases ih fun n here => each n (.tail _ here) with ⟨absent, nobody⟩ | ⟨present, id, node, shows⟩
    · rcases each m (.head _) with ⟨gone, none⟩ | ⟨there, id, node, own⟩
      · refine .inl ⟨Bool.or_eq_false_iff.mpr ⟨absent, gone⟩, ?_⟩
        rw [topmost?_cons, nobody, none, Option.none_or]
      · exact .inr ⟨Bool.or_eq_true_iff.mpr (.inr there), id, node, own.below there absent nobody⟩
    · exact .inr ⟨Bool.or_eq_true_iff.mpr (.inl present), id, node, shows.above⟩

theorem faced_volume (id : VolumeId) : (volume id).Faced volumes path := by
  have top : (volume id).topmost? volumes path =
      if (volumeAt volumes id).has path then some id else none := List.find?_singleton ..
  cases held : (volumeAt volumes id).node? path with
  | none =>
    have absent : (volumeAt volumes id).has path = false := by
      unfold Volume.has
      rw [held]
      rfl
    rw [absent] at top
    exact .inl ⟨absent, top⟩
  | some node =>
    have present : (volumeAt volumes id).has path = true := by
      unfold Volume.has
      rw [held]
      rfl
    rw [present] at top
    refine .inr ⟨present, id, node, top, held, Volume.size_of_node held, fun other => ?_⟩
    cases node with
    | directory =>
      have directory : (volume id).isDirectory volumes path = true :=
        Volume.isDirectory_iff.mpr held
      rw [directory] at other
      cases other
    | file contents =>
      refine ⟨contents, rfl, ?_⟩
      show (volumeAt volumes id).read path = _
      unfold Volume.read
      rw [held]

/-- By induction on the layers. -/
theorem Composed.faced (made : m.Composed) (path : String) : m.Faced volumes path := by
  induction made with
  | volume id => exact faced_volume id
  | layered _ ih => exact faced_layered ih

/-! ## Sizes and reads -/

/-- Whatever can be read has a size: that of the topmost volume that has the path, which counts a
directory as nothing. So the size is the length of what is read if there is no directory at the
path, and if there is one just when the topmost volume happens to have as much there. -/
theorem size_of_read (made : m.Composed) {contents : Bytes}
    (found : m.read volumes path = .ok contents) : ∃ id node,
      m.topmost? volumes path = some id ∧ (volumeAt volumes id).node? path = some node ∧
      m.size volumes path = .ok node.length ∧
      (m.size volumes path = .ok contents.length ↔ node.length = contents.length) ∧
      (m.isDirectory volumes path = false → node = .file contents) := by
  have present : m.has volumes path = true := by
    rcases made.reads path with ⟨present, -⟩ | ⟨nobody, -⟩
    · exact present
    · rw [nobody] at found
      cases found
  rcases made.faced path with ⟨absent, -⟩ | ⟨-, id, node, top, held, size, file⟩
  · rw [present] at absent
    cases absent
  · refine ⟨id, node, top, held, size, ?_, fun flat => ?_⟩
    · rw [size, Except.ok.injEq]
    · obtain ⟨same, rfl, found'⟩ := file flat
      rw [found] at found'
      cases found'
      rfl

/-! ## A directory above a file -/

/-- The layers of `clash` the other way round. -/
def covered : Mount := .layered clash.reverse

theorem covered_composed : covered.Composed :=
  .layered fun m here => clash_composed m (List.mem_reverse.mp here)

/-- The file can be read through the directory above it, and the size is that of the directory. -/
theorem size_of_read_covered : covered.read clashVolumes "data" = .ok [102] ∧
    covered.topmost? clashVolumes "data" = some 0 ∧
    covered.size clashVolumes "data" ≠ .ok 1 := by
  have found : covered.read clashVolumes "data" = .ok [102] := rfl
  obtain ⟨id, node, top, held, size, agrees, -⟩ := size_of_read covered_composed found
  have lower : covered.topmost? clashVolumes "data" = some 0 := rfl
  rw [lower] at top
  cases top
  have directory : (volumeAt clashVolumes 0).node? "data" = some .directory := rfl
  rw [directory] at held
  cases held
  exact ⟨found, lower, fun same => absurd (agrees.mp same) (by decide)⟩

/-- What is read does not always have the size that is given for it. -/
theorem directory_hides_size :
    ¬∀ (volumes : List Volume) (m : Mount), (∀ id, (volumeAt volumes id).Edited) → m.Composed →
      ∀ path contents, m.read volumes path = .ok contents →
        m.size volumes path = .ok contents.length := by
  intro agrees
  have same := agrees clashVolumes covered clash_edited covered_composed "data" [102] rfl
  cases same

end Mount

end DeviceBridge
