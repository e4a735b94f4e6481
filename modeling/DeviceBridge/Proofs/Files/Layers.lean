import DeviceBridge.Proofs.Files.Trees

/-
  Layers inside layers. Each of the five questions goes through the layers in a way of its own, and
  each way is associative: what some layers answer above others is put together from what either
  answer (`anyHas_append`, `listLayers_append`, `readLayers_append`, `sizeLayers_append`). So to
  nest layers instead of listing them shows nowhere but in what is read: nested layers that have a
  directory at a path are passed over, also where one of them has a file there
  (`readLayers_nested`). `layers_flatten` says for which layers and paths that makes a difference.
-/

namespace DeviceBridge

/-! ## Merged names -/

theorem mergeNames_append (names more : List String) : ∀ seen : List String,
    mergeNames seen (names ++ more) = mergeNames (mergeNames seen names) more := by
  induction names with
  | nil => exact fun _ => rfl
  | cons n ns ih => exact fun seen => ih _

/-- To merge is associative, by induction on the names that come last. -/
theorem mergeNames_mergeNames (names seen : List String) : ∀ first : List String,
    mergeNames seen (mergeNames first names) = mergeNames (mergeNames seen first) names := by
  induction names with
  | nil => exact fun _ => rfl
  | cons n ns ih =>
    intro first
    rw [mergeNames, ih, mergeNames]
    congr 1
    by_cases old : n ∈ first
    · rw [if_pos old, if_pos ((mem_mergeNames first).mpr (.inr old))]
    · rw [if_neg old, mergeNames_append]
      rfl

theorem mergeNames_of_nodup (names : List String) : ∀ seen : List String, (seen ++ names).Nodup →
    mergeNames seen names = seen ++ names := by
  induction names with
  | nil => exact fun seen _ => (List.append_nil seen).symm
  | cons n ns ih =>
    intro seen once
    have split : seen ++ n :: ns = (seen ++ [n]) ++ ns := by simp
    have new : n ∉ seen := fun old =>
      (List.nodup_append.mp once).2.2 n old n (.head _) rfl
    rw [split] at once ⊢
    rw [mergeNames, if_neg new, ih _ once]

/-- No directory of a tree lists a name twice, whatever path it is asked for. -/
theorem Volume.IsTree.list_nodup {v : Volume} (tree : v.IsTree) {path : String}
    {names : List String} (listed : v.list path = .ok names) : names.Nodup := by
  cases directory : v.isDirectory path with
  | false =>
    unfold Volume.list at listed
    rw [if_neg (Bool.eq_false_iff.mp directory)] at listed
    cases listed
  | true =>
    have present : v.has path = true := by
      unfold Volume.has
      rw [Volume.isDirectory_iff.mp directory]
      rfl
    obtain ⟨n, here, rfl⟩ := Volume.has_iff.mp present
    rw [← Path.ofTrail_trail (tree.normal n here)] at listed directory
    obtain ⟨all, shown, once, -⟩ := tree.lists (Path.trail_plain n.1) directory
    rw [shown] at listed
    cases listed
    exact once

namespace Mount

variable {volumes : List Volume} {m : Mount} {layers xs ys zs : List Mount} {path : String}

/-! ## Mounts made of volumes -/

/-- A volume, or any number of layers that are made of volumes, maybe none. -/
inductive Composed : Mount → Prop where
  | volume (id : VolumeId) : Composed (.volume id)
  | layered {layers : List Mount} (each : ∀ m ∈ layers, Composed m) : Composed (.layered layers)

namespace Composed

/-- By induction on the layers. -/
theorem present (made : m.Composed) (directory : m.isDirectory volumes path = true) :
    m.has volumes path = true := by
  induction made with
  | volume id =>
    show ((volumeAt volumes id).node? path).isSome = true
    rw [Volume.isDirectory_iff.mp directory]
    rfl
  | layered _ ih =>
    obtain ⟨n, here, directory⟩ := anyIsDirectory_iff.mp directory
    exact anyHas_iff.mpr ⟨n, here, ih n here directory⟩

end Composed

mutual

/-- The volumes that a tree is made of, the lowest first. -/
def leaves : Mount → List VolumeId
  | volume id => [id]
  | layered layers => leavesOf layers
  | oracle _ => []

def leavesOf : List Mount → List VolumeId
  | [] => []
  | m :: above => leaves m ++ leavesOf above

end

theorem mem_leavesOf {id : VolumeId} (here : m ∈ layers) (inside : id ∈ m.leaves) :
    id ∈ leavesOf layers := by
  induction here with
  | head => exact List.mem_append_left _ inside
  | tail _ _ ih => exact List.mem_append_right _ ih

/-! ## What exists -/

theorem anyHas_append (xs ys : List Mount) :
    anyHas volumes (xs ++ ys) path = (anyHas volumes ys path || anyHas volumes xs path) := by
  induction xs with
  | nil => exact (Bool.or_false _).symm
  | cons m above ih => rw [List.cons_append, anyHas, anyHas, ih, Bool.or_assoc]

theorem anyIsDirectory_append (xs ys : List Mount) : anyIsDirectory volumes (xs ++ ys) path =
    (anyIsDirectory volumes ys path || anyIsDirectory volumes xs path) := by
  induction xs with
  | nil => exact (Bool.or_false _).symm
  | cons m above ih =>
    rw [List.cons_append, anyIsDirectory, anyIsDirectory, ih, Bool.or_assoc]

/-! ## Listings -/

/-- A listing that goes on in the layers below. -/
def continued (above : Option (List String)) : Option (List String) → Option (List String)
  | none => above
  | some names => some (mergeNames (above.getD []) names)

theorem getD_continued (above below : Option (List String)) :
    (continued above below).getD [] = mergeNames (above.getD []) (below.getD []) := by
  cases below <;> rfl

theorem continued_continued (above middle below : Option (List String)) :
    continued (continued above middle) below = continued above (continued middle below) := by
  cases below with
  | none => rfl
  | some names =>
    show some (mergeNames ((continued above middle).getD []) names) =
      some (mergeNames (above.getD []) (mergeNames (middle.getD []) names))
    rw [getD_continued, mergeNames_mergeNames]

/-- What one layer adds to a listing. -/
theorem listLayers_cons {found : Option (List String)}
    (others : listLayers volumes layers path = .ok found) : listLayers volumes (m :: layers) path =
      if m.has volumes path && m.isDirectory volumes path
        then (m.list volumes path).map fun names => continued found (some names)
        else .ok found := by
  unfold listLayers
  rw [others]
  simp only
  split
  · cases m.list volumes path <;> rfl
  · rfl

/-- Layers that can be listed, or have no directory there, are listed one behind the other. -/
theorem listLayers_append {above : Option (List String)}
    (first : listLayers volumes ys path = .ok above) : ∀ {found : Option (List String)},
    listLayers volumes xs path = .ok found →
      listLayers volumes (xs ++ ys) path = .ok (continued above found) := by
  induction xs with
  | nil =>
    rintro found ⟨⟩
    exact first
  | cons m rest ih =>
    intro found second
    cases others : listLayers volumes rest path with
    | error e =>
      unfold listLayers at second
      rw [others] at second
      cases second
    | ok below =>
      rw [listLayers_cons others] at second
      rw [List.cons_append, listLayers_cons (ih others)]
      split at second
      · next shown =>
        rw [if_pos shown]
        cases listed : m.list volumes path with
        | error e =>
          rw [listed] at second
          cases second
        | ok names =>
          rw [listed] at second
          cases second
          exact congrArg Except.ok (continued_continued above below (some names))
      · next hidden =>
        cases second
        exact if_neg hidden

theorem list_layered {found : Option (List String)}
    (listed : listLayers volumes layers path = .ok found) : (layered layers).list volumes path =
      (found.map Except.ok).getD (.error (.operation path "Not a directory")) := by
  unfold list
  rw [listed]
  cases found <;> rfl

/-- Just directories are listed, and these exist. -/
def Lists (volumes : List Volume) (m : Mount) (path : String) : Prop :=
  (m.isDirectory volumes path = true ∧ m.has volumes path = true ∧
    ∃ names, m.list volumes path = .ok names) ∨
  m.isDirectory volumes path = false ∧
    m.list volumes path = .error (.operation path "Not a directory")

/-- By induction on the layers: those that have the directory are listed. -/
theorem listLayers_found (each : ∀ m ∈ layers, m.Lists volumes path) :
    ∃ found, listLayers volumes layers path = .ok found ∧
      (found.isSome = true ↔ anyIsDirectory volumes layers path = true) := by
  induction layers with
  | nil => exact ⟨none, rfl, Iff.rfl⟩
  | cons m above ih =>
    obtain ⟨found, others, directories⟩ := ih fun n here => each n (.tail _ here)
    rw [listLayers_cons others, anyIsDirectory]
    rcases each m (.head _) with ⟨directory, present, names, listed⟩ | ⟨other, -⟩
    · rw [directory, present, listed]
      exact ⟨_, rfl, iff_of_true rfl (Bool.or_true _)⟩
    · rw [other, Bool.and_false, Bool.or_false]
      exact ⟨found, rfl, directories⟩

/-- By induction on the layers. -/
theorem Composed.lists (made : m.Composed) (path : String) : m.Lists volumes path := by
  induction made with
  | volume id =>
    cases directory : (volumeAt volumes id).isDirectory path with
    | true =>
      exact .inl ⟨directory, (Composed.volume id).present directory, _, if_pos directory⟩
    | false => exact .inr ⟨directory, if_neg (Bool.eq_false_iff.mp directory)⟩
  | @layered layers each ih =>
    obtain ⟨found, listed, directories⟩ := listLayers_found ih
    cases found with
    | some names =>
      have directory := directories.mp rfl
      exact .inl ⟨directory, (Composed.layered each).present directory, names, list_layered listed⟩
    | none =>
      refine .inr ⟨?_, list_layered listed⟩
      exact Bool.eq_false_iff.mpr fun directory => absurd (directories.mpr directory) (by decide)

/-- What is listed of layers is merged, so that no name comes twice. -/
theorem listLayers_nodup : ∀ {layers : List Mount} {found : Option (List String)},
    listLayers volumes layers path = .ok found → (found.getD []).Nodup := by
  intro layers
  induction layers with
  | nil =>
    rintro found ⟨⟩
    exact List.nodup_nil
  | cons m above ih =>
    intro found listed
    cases others : listLayers volumes above path with
    | error e =>
      unfold listLayers at listed
      rw [others] at listed
      cases listed
    | ok before =>
      rw [listLayers_cons others] at listed
      split at listed
      · cases names : m.list volumes path with
        | error e =>
          rw [names] at listed
          cases listed
        | ok more =>
          rw [names] at listed
          cases listed
          exact mergeNames_nodup more (ih others)
      · cases listed
        exact ih others

theorem nodup_of_layered {found : Option (List String)} {names : List String}
    (shown : listLayers volumes layers path = .ok found)
    (listed : (layered layers).list volumes path = .ok names) : names.Nodup := by
  rw [list_layered shown] at listed
  cases found with
  | none => cases listed
  | some all =>
    cases listed
    exact listLayers_nodup shown

/-- A single layer is listed as it is, if it lists no name twice. -/
theorem Lists.single (lists : m.Lists volumes path)
    (once : ∀ names, m.list volumes path = .ok names → names.Nodup) :
    listLayers volumes [m] path = .ok ((m.list volumes path).toOption) ∧
      (layered [m]).list volumes path = m.list volumes path := by
  have alone : listLayers volumes [m] path = .ok ((m.list volumes path).toOption) := by
    rw [listLayers_cons rfl]
    rcases lists with ⟨directory, present, names, listed⟩ | ⟨other, refused⟩
    · rw [directory, present, listed]
      exact congrArg (fun names => Except.ok (some names))
        (mergeNames_of_nodup names [] (once names listed))
    · rw [other, refused, Bool.and_false]
      rfl
  refine ⟨alone, ?_⟩
  rw [list_layered alone]
  rcases lists with ⟨-, -, names, listed⟩ | ⟨-, refused⟩
  · rw [listed]
    rfl
  · rw [refused]
    rfl

theorem listLayers_nested (made : ∀ m ∈ ys, Composed m) (path : String) :
    listLayers volumes [layered ys] path = listLayers volumes ys path := by
  obtain ⟨found, listed, -⟩ := listLayers_found fun n here => (made n here).lists path
  have shown := list_layered listed
  have nested : (layered ys).Lists volumes path := (Composed.layered made).lists path
  obtain ⟨alone, -⟩ := nested.single fun names same => nodup_of_layered listed same
  rw [alone, shown, listed]
  cases found <;> rfl

/-! ## Reading -/

/-- What the lowest layer is asked, when no other one answers. -/
theorem readLayers_cons : readLayers volumes (m :: layers) path =
    (readLayers volumes layers path).or
      (if m.has volumes path && !m.isDirectory volumes path
        then some (m.read volumes path) else none) := by
  rw [readLayers]
  cases readLayers volumes layers path <;> rfl

theorem readLayers_append (xs ys : List Mount) : readLayers volumes (xs ++ ys) path =
    (readLayers volumes ys path).or (readLayers volumes xs path) := by
  induction xs with
  | nil => exact (Option.or_none).symm
  | cons m above ih =>
    rw [List.cons_append, readLayers_cons, readLayers_cons, ih, Option.or_assoc]

theorem sizeLayers_cons : sizeLayers volumes (m :: layers) path =
    (sizeLayers volumes layers path).or
      (if m.has volumes path then some (m.size volumes path) else none) := by
  rw [sizeLayers]
  cases sizeLayers volumes layers path <;> rfl

theorem sizeLayers_append (xs ys : List Mount) : sizeLayers volumes (xs ++ ys) path =
    (sizeLayers volumes ys path).or (sizeLayers volumes xs path) := by
  induction xs with
  | nil => exact (Option.or_none).symm
  | cons m above ih =>
    rw [List.cons_append, sizeLayers_cons, sizeLayers_cons, ih, Option.or_assoc]

theorem read_layered : (layered layers).read volumes path =
    (readLayers volumes layers path).getD (.error (.operation path "No such file")) := rfl

theorem size_layered : (layered layers).size volumes path =
    (sizeLayers volumes layers path).getD (.error (.operation path "No such file")) := rfl

/-- Just what exists has a size. -/
theorem sizeLayers_isSome :
    (sizeLayers volumes layers path).isSome = anyHas volumes layers path := by
  induction layers with
  | nil => rfl
  | cons m above ih =>
    rw [sizeLayers_cons, anyHas, Option.isSome_or, ih]
    cases m.has volumes path <;> rfl

theorem sizeLayers_nested (ys : List Mount) :
    sizeLayers volumes [layered ys] path = sizeLayers volumes ys path := by
  rw [sizeLayers_cons, size_layered]
  show (if anyHas volumes ys path = true then _ else none) = _
  rw [← sizeLayers_isSome]
  cases sizeLayers volumes ys path <;> rfl

/-- Where no layer has a directory, one of them is read if the path exists. -/
theorem readLayers_isSome (flat : anyIsDirectory volumes layers path = false) :
    (readLayers volumes layers path).isSome = anyHas volumes layers path := by
  induction layers with
  | nil => rfl
  | cons m above ih =>
    obtain ⟨others, own⟩ := Bool.or_eq_false_iff.mp flat
    rw [readLayers_cons, anyHas, Option.isSome_or, ih others, own]
    cases m.has volumes path <;> rfl

/-- Nested layers are passed over where one of them has a directory, even if another has a file. -/
theorem readLayers_nested (ys : List Mount) : readLayers volumes [layered ys] path =
    if anyIsDirectory volumes ys path then none else readLayers volumes ys path := by
  rw [readLayers_cons, read_layered]
  show (if (anyHas volumes ys path && !anyIsDirectory volumes ys path) = true then _ else none) = _
  cases directory : anyIsDirectory volumes ys path with
  | true =>
    rw [Bool.not_true, Bool.and_false]
    rfl
  | false =>
    rw [← readLayers_isSome directory]
    cases readLayers volumes ys path <;> rfl

/-- What is read exists, and what exists is read unless it is a directory. -/
def Reads (volumes : List Volume) (m : Mount) (path : String) : Prop :=
  (m.has volumes path = true ∧ ∃ contents, m.read volumes path = .ok contents) ∨
  m.read volumes path = .error (.operation path "No such file") ∧
    (m.has volumes path = true → m.isDirectory volumes path = true)

/-- By induction on the layers: no layer is asked that has no file. -/
theorem readLayers_found (each : ∀ m ∈ layers, m.Reads volumes path) :
    (anyHas volumes layers path = true ∧
      ∃ contents, readLayers volumes layers path = some (.ok contents)) ∨
    readLayers volumes layers path = none ∧
      (anyHas volumes layers path = true → anyIsDirectory volumes layers path = true) := by
  induction layers with
  | nil => exact .inr ⟨rfl, fun present => by cases present⟩
  | cons m above ih =>
    rw [readLayers_cons, anyHas, anyIsDirectory]
    rcases ih fun n here => each n (.tail _ here) with ⟨present, contents, found⟩ | ⟨nobody, only⟩
    · rw [present, found]
      exact .inl ⟨rfl, contents, rfl⟩
    · rw [nobody, Option.none_or]
      cases file : (m.has volumes path && !m.isDirectory volumes path) with
      | true =>
        obtain ⟨present, other⟩ := Bool.and_eq_true_iff.mp file
        rw [Bool.not_eq_true'] at other
        rcases each m (.head _) with ⟨-, contents, found⟩ | ⟨-, directory⟩
        · rw [present, Bool.or_true, found]
          exact .inl ⟨rfl, contents, rfl⟩
        · rw [directory present] at other
          cases other
      | false =>
        refine .inr ⟨rfl, fun either => ?_⟩
        rw [Bool.or_eq_true] at either ⊢
        refine either.imp only fun present => ?_
        rwa [present, Bool.true_and, Bool.not_eq_false'] at file

/-- By induction on the layers. -/
theorem Composed.reads (made : m.Composed) (path : String) : m.Reads volumes path := by
  induction made with
  | volume id =>
    unfold Reads has isDirectory read Volume.has Volume.isDirectory Volume.read
    cases (volumeAt volumes id).node? path with
    | none => exact .inr ⟨rfl, fun present => by cases present⟩
    | some node =>
      cases node with
      | directory => exact .inr ⟨rfl, fun _ => rfl⟩
      | file contents => exact .inl ⟨rfl, contents, rfl⟩
  | @layered layers each ih =>
    rcases readLayers_found ih with ⟨present, contents, found⟩ | ⟨nobody, only⟩
    · refine .inl ⟨present, contents, ?_⟩
      show (readLayers volumes layers path).getD _ = _
      rw [found]
      rfl
    · refine .inr ⟨?_, only⟩
      show (readLayers volumes layers path).getD _ = _
      rw [nobody]
      rfl

theorem Composed.size_absent (made : m.Composed) (absent : m.has volumes path = false) :
    m.size volumes path = .error (.operation path "No such file") := by
  cases made with
  | volume id =>
    unfold has Volume.has at absent
    unfold size Volume.size
    rw [Option.not_isSome_iff_eq_none.mp (Bool.eq_false_iff.mp absent)]
  | @layered layers _ =>
    have nobody : sizeLayers volumes layers path = none := by
      rw [← Option.not_isSome_iff_eq_none, sizeLayers_isSome]
      exact Bool.eq_false_iff.mp absent
    rw [size_layered, nobody]
    rfl

theorem Composed.list_nodup (edited : ∀ id, (volumeAt volumes id).Edited) (made : m.Composed)
    {names : List String} (listed : m.list volumes path = .ok names) : names.Nodup := by
  cases made with
  | volume id => exact (edited id).isTree.list_nodup listed
  | @layered layers each =>
    obtain ⟨found, shown, -⟩ := listLayers_found fun n here => (each n here).lists path
    exact nodup_of_layered shown listed

/-! ## Nesting -/

/-- Two trees answer alike at a path, apart from reads. -/
structure Alike (volumes : List Volume) (m n : Mount) (path : String) : Prop where
  has : m.has volumes path = n.has volumes path
  isDirectory : m.isDirectory volumes path = n.isDirectory volumes path
  list : m.list volumes path = n.list volumes path
  size : m.size volumes path = n.size volumes path

/-- A path where a tree has a directory, and a file that can be read. -/
def Mixed (volumes : List Volume) (m : Mount) (path : String) (contents : Bytes) : Prop :=
  m.isDirectory volumes path = true ∧ m.read volumes path = .ok contents

theorem alike_of_layers {layers others : List Mount}
    (has : anyHas volumes layers path = anyHas volumes others path)
    (isDirectory : anyIsDirectory volumes layers path = anyIsDirectory volumes others path)
    (list : listLayers volumes layers path = listLayers volumes others path)
    (size : sizeLayers volumes layers path = sizeLayers volumes others path) :
    Alike volumes (.layered layers) (.layered others) path := by
  refine ⟨has, isDirectory, ?_, ?_⟩
  · unfold Mount.list
    rw [list]
  · rw [size_layered, size_layered, size]

section

variable (below : ∀ m ∈ xs, Composed m) (nested : ∀ m ∈ ys, Composed m)
  (above : ∀ m ∈ zs, Composed m)
include below nested above

theorem alike_flatten (path : String) :
    Alike volumes (.layered (xs ++ .layered ys :: zs)) (.layered (xs ++ ys ++ zs)) path := by
  have split : xs ++ .layered ys :: zs = xs ++ [.layered ys] ++ zs := by simp
  have listed {layers : List Mount} (made : ∀ m ∈ layers, Composed m) :
      ∃ found, listLayers volumes layers path = .ok found :=
    (listLayers_found fun n here => (made n here).lists path).imp fun _ found => found.1
  obtain ⟨lower, first⟩ := listed below
  obtain ⟨middle, second⟩ := listed nested
  obtain ⟨upper, third⟩ := listed above
  rw [split]
  refine alike_of_layers ?_ ?_ ?_ ?_
  · rw [anyHas_append, anyHas_append, anyHas_append, anyHas_append, anyHas, anyHas, Bool.false_or]
    rfl
  · rw [anyIsDirectory_append, anyIsDirectory_append, anyIsDirectory_append, anyIsDirectory_append,
      anyIsDirectory, anyIsDirectory, Bool.false_or]
    rfl
  · have inner := (listLayers_nested nested path).trans second
    rw [listLayers_append third (listLayers_append inner first),
      listLayers_append third (listLayers_append second first)]
  · rw [sizeLayers_append, sizeLayers_append, sizeLayers_append, sizeLayers_append,
      sizeLayers_nested]

omit below in
/-- Reads differ just where the nested layers hide a file of theirs behind a directory, no layer
above them has a file, and the layers below do not happen to have the same contents there. -/
theorem read_flatten_iff (path : String) :
    (Mount.layered (xs ++ .layered ys :: zs)).read volumes path =
        (Mount.layered (xs ++ ys ++ zs)).read volumes path ↔
      ¬∃ contents, Mixed volumes (.layered ys) path contents ∧
        (∀ other, (Mount.layered zs).read volumes path ≠ .ok other) ∧
        (Mount.layered xs).read volumes path ≠ .ok contents := by
  have split : xs ++ .layered ys :: zs = xs ++ [.layered ys] ++ zs := by simp
  unfold Mixed
  rw [split, read_layered, read_layered, read_layered, read_layered, read_layered,
    readLayers_append, readLayers_append, readLayers_append, readLayers_append, readLayers_nested]
  rcases readLayers_found fun n here => (above n here).reads path with
    ⟨-, other, third⟩ | ⟨third, -⟩
  · rw [third]
    refine iff_of_true rfl ?_
    rintro ⟨-, -, nobody, -⟩
    exact nobody other rfl
  · rw [third, Option.none_or, Option.none_or]
    cases directory : anyIsDirectory volumes ys path with
    | false =>
      refine iff_of_true rfl ?_
      rintro ⟨-, ⟨mixed, -⟩, -⟩
      rw [show (Mount.layered ys).isDirectory volumes path = false from directory] at mixed
      cases mixed
    | true =>
      rw [if_pos rfl, Option.none_or]
      rcases readLayers_found fun n here => (nested n here).reads path with
        ⟨-, contents, second⟩ | ⟨second, -⟩
      · rw [second]
        constructor
        · rintro same ⟨mine, ⟨-, found⟩, -, differs⟩
          cases found
          exact differs same
        · intro shown
          by_contra differs
          exact shown ⟨contents, ⟨directory, rfl⟩, fun _ same => (by cases same), differs⟩
      · rw [second, Option.none_or]
        refine iff_of_true rfl ?_
        rintro ⟨contents, ⟨-, found⟩, -⟩
        cases found

end

/-- A single layer answers as it does alone, but that a file is not read where it has a directory as
well. -/
theorem Composed.alike_single (made : m.Composed)
    (once : ∀ names, m.list volumes path = .ok names → names.Nodup) :
    Alike volumes (.layered [m]) m path := by
  refine ⟨Bool.false_or _, Bool.false_or _, ((made.lists path).single once).2, ?_⟩
  rw [size_layered, sizeLayers_cons]
  cases present : m.has volumes path with
  | true => rfl
  | false => exact (made.size_absent present).symm

theorem Composed.read_single_iff (made : m.Composed) (path : String) :
    (Mount.layered [m]).read volumes path = m.read volumes path ↔
      ¬∃ contents, Mixed volumes m path contents := by
  unfold Mixed
  rw [read_layered, readLayers_cons]
  rcases made.reads path with ⟨present, contents, found⟩ | ⟨nobody, only⟩
  · rw [present, found]
    cases directory : m.isDirectory volumes path with
    | true =>
      refine iff_of_false (fun same => by cases same) fun shown => shown ⟨contents, rfl, rfl⟩
    | false =>
      refine iff_of_true rfl ?_
      rintro ⟨_, mixed, -⟩
      cases mixed
  · rw [nobody]
    refine iff_of_true ?_ ?_
    · cases present : m.has volumes path with
      | true =>
        rw [only present]
        rfl
      | false => rfl
    · rintro ⟨_, -, found⟩
      cases found

/-- To put some of the layers into layers of their own changes nothing about what exists, what is a
directory, the listings and the sizes. A read changes just where the nested layers have both a
directory and a file at the path, no layer above them has a file there, and those below do not have
the same contents. It is the same with one layer around a single tree, where the listings are those
of volumes that were changed under normalised paths. -/
theorem layers_flatten (below : ∀ m ∈ xs, Composed m) (nested : ∀ m ∈ ys, Composed m)
    (above : ∀ m ∈ zs, Composed m) (path : String) :
    Alike volumes (.layered (xs ++ .layered ys :: zs)) (.layered (xs ++ ys ++ zs)) path ∧
    ((Mount.layered (xs ++ .layered ys :: zs)).read volumes path =
        (Mount.layered (xs ++ ys ++ zs)).read volumes path ↔
      ¬∃ contents, Mixed volumes (.layered ys) path contents ∧
        (∀ other, (Mount.layered zs).read volumes path ≠ .ok other) ∧
        (Mount.layered xs).read volumes path ≠ .ok contents) ∧
    ∀ m : Mount, m.Composed →
      ((∀ id, (volumeAt volumes id).Edited) → Alike volumes (.layered [m]) m path) ∧
      ((Mount.layered [m]).read volumes path = m.read volumes path ↔
        ¬∃ contents, Mixed volumes m path contents) := by
  refine ⟨alike_flatten below nested above path, read_flatten_iff nested above path,
    fun m made => ⟨fun edited => ?_, made.read_single_iff path⟩⟩
  exact made.alike_single fun names => made.list_nodup edited

/-! ## A directory below a file -/

/-- A volume with a directory where the other one has a file. -/
def clashVolumes : List Volume :=
  [((Volume.Edit.makeDirectory "data").perform .empty).2,
    ((Volume.Edit.write "data" [102]).perform .empty).2]

theorem clash_edited (id : VolumeId) : (volumeAt clashVolumes id).Edited := by
  match id with
  | 0 => exact .edit .empty (.makeDirectory "data") rfl
  | 1 => exact .edit .empty (.write "data" [102]) rfl
  | _ + 2 => exact .empty

def clash : List Mount := [.volume 0, .volume 1]

theorem clash_composed : ∀ m ∈ clash, Composed m := by
  intro m here
  rcases List.mem_pair.mp here with rfl | rfl
  · exact .volume 0
  · exact .volume 1

/-- The file is read of the two, and not of the two as a single layer; all else is the same. -/
theorem layers_flatten_clash :
    Alike clashVolumes (.layered [.layered clash]) (.layered clash) "data" ∧
    (Mount.layered clash).read clashVolumes "data" = .ok [102] ∧
    (Mount.layered [.layered clash]).read clashVolumes "data" ≠
      (Mount.layered clash).read clashVolumes "data" := by
  have nothing : ∀ m ∈ ([] : List Mount), Composed m := fun m here => absurd here List.not_mem_nil
  obtain ⟨alike, differs, -⟩ :=
    @layers_flatten clashVolumes [] clash [] nothing clash_composed nothing "data"
  rw [List.append_nil] at alike differs
  refine ⟨alike, rfl, fun same => differs.mp same ⟨[102], ⟨rfl, rfl⟩, ?_, ?_⟩⟩
  · intro other found
    cases found
  · intro found
    cases found

/-- To wrap a tree as the only layer is not without effect. -/
theorem wrapping_hides_file :
    ¬∀ (volumes : List Volume) (layers : List Mount), (∀ id, (volumeAt volumes id).Edited) →
      (∀ m ∈ layers, Composed m) → layers ≠ [] → ∀ path,
        (Mount.layered [.layered layers]).read volumes path =
          (Mount.layered layers).read volumes path := by
  intro same
  have read := same clashVolumes clash clash_edited clash_composed (List.cons_ne_nil _ _) "data"
  cases read

end Mount

end DeviceBridge
