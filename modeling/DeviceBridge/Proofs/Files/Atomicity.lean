import DeviceBridge.Proofs.Files.Volumes
import Mathlib.Data.List.Induction

/-
  Failed changes of a volume leave nothing behind. The directories on the way to a path are made
  one after the other, and a file in the way stops this half-way; but in a tree all above a file is
  there already, and below a directory that had to be made there is nothing that could stop it
  (`IsTree.makeAll_failed`). So a change is made as a whole or not at all (`edits_atomic`).
-/

namespace DeviceBridge

open DeviceBridge.Path (Trail Plain ofTrail trail)

namespace Path

variable {t : Trail}

/-- Every prefix but the empty one is there. -/
theorem join_mem_prefixes {further : Trail} (some : further ≠ []) : ∀ (before : Trail) {t : Trail},
    further <+: t → join (before ++ further) ∈ prefixes before t := by
  induction further with
  | nil => exact absurd rfl some
  | cons p rest ih =>
    rintro before t ⟨left, rfl⟩
    by_cases last : rest = []
    · rw [last]
      exact .head _
    · have later := ih last (before ++ [p]) (List.prefix_append rest left)
      rw [List.append_assoc] at later
      exact .tail _ later

end Path

namespace Volume

variable {v : Volume} {t : Trail} {p : List Char}

/-! ## Ancestors -/

/-- Whatever lies below a path lies in a directory, by induction on the way up. -/
theorem IsTree.above (tree : v.IsTree) {u : Trail} (plain : Plain (t ++ u)) (below : u ≠ [])
    (present : v.has (ofTrail (t ++ u)) = true) : v.node? (ofTrail t) = some .directory := by
  induction u using List.reverseRecOn with
  | nil => exact absurd rfl below
  | append_singleton u p ih =>
    rw [← List.append_assoc] at plain present
    have parent := tree.parent (t ++ u) p plain present
    by_cases last : u = []
    · rw [last, List.append_nil] at parent
      exact parent
    · refine ih (Path.plain_append.mp plain).1 last ?_
      unfold has
      rw [parent]
      rfl

theorem directory_ne_file (contents : Bytes) : some Node.directory ≠ some (.file contents) := by
  intro same
  cases same

/-- Directories can be made unless one of them is a file, by induction on them. -/
theorem makeAll_ok_iff (ds : List String) : ∀ v : Volume, (v.makeAll ds).1 = .ok () ↔
    ∀ d ∈ ds, ∀ contents, v.node? d ≠ some (.file contents) := by
  induction ds with
  | nil => exact fun v => iff_of_true rfl fun d here => absurd here List.not_mem_nil
  | cons d rest ih =>
    intro v
    rw [List.forall_mem_cons]
    unfold makeAll
    cases held : v.node? d with
    | none =>
      simp only
      rw [ih, and_iff_right fun contents => (Option.some_ne_none _).symm]
      refine forall₂_congr fun q _ => forall_congr' fun contents => ?_
      rw [node?_insert]
      split
      · next mine =>
        rw [mine, held]
        exact iff_of_true (directory_ne_file contents) (Option.some_ne_none _).symm
      · exact Iff.rfl
    | some node =>
      cases node with
      | directory =>
        simp only
        rw [ih, and_iff_right directory_ne_file]
      | file contents =>
        refine iff_of_false ?_ ?_
        · intro same
          cases same
        · rintro ⟨free, -⟩
          exact free contents rfl

/-- Where a file is in the way, all directories above it are there: nothing is made. By induction on
the way down. -/
theorem IsTree.makeAll_failed (tree : v.IsTree) (further : Trail) : ∀ before : Trail,
    Plain (before ++ further) →
    (v.makeAll ((Path.prefixes before further).map String.ofList)).1 ≠ .ok () →
    (v.makeAll ((Path.prefixes before further).map String.ofList)).2 = v := by
  induction further with
  | nil => exact fun _ _ failed => absurd rfl failed
  | cons p rest ih =>
    intro before plain
    have split : before ++ p :: rest = (before ++ [p]) ++ rest := by simp
    rw [split] at plain
    show (v.makeAll (ofTrail (before ++ [p]) :: _)).1 ≠ .ok () →
      (v.makeAll (ofTrail (before ++ [p]) :: _)).2 = v
    unfold Volume.makeAll
    cases held : v.node? (ofTrail (before ++ [p])) with
    | none =>
      -- Below a path that is not there nothing is, so that nothing stops the rest.
      intro failed
      refine absurd ((makeAll_ok_iff _ _).mpr fun d here contents found => ?_) failed
      obtain ⟨text, among, rfl⟩ := List.mem_map.mp here
      obtain ⟨more, ⟨left, whole⟩, rfl⟩ := Path.mem_prefixes among
      rw [node?_insert] at found
      split at found
      · cases found
      · next apart =>
        have down : more ≠ [] := by
          rintro rfl
          rw [List.append_nil] at apart
          exact apart rfl
        rw [← whole, ← List.append_assoc] at plain
        have present : v.has (ofTrail (before ++ [p] ++ more)) = true := by
          unfold has
          have found' : v.node? (ofTrail (before ++ [p] ++ more)) = some (.file contents) := found
          rw [found']
          rfl
        rw [tree.above (Path.plain_append.mp plain).1 down present] at held
        cases held
    | some node =>
      cases node with
      | directory => exact ih _ plain
      | file contents => exact fun _ => rfl

/-! ## Refusals -/

/-- A file lies on the way to the path. -/
def Blocked (v : Volume) (path : String) : Prop :=
  ∃ t u contents, trail path = t ++ u ∧ u ≠ [] ∧ v.node? (ofTrail t) = some (.file contents)

/-- What stands against a change. -/
def Refuses (v : Volume) : Edit → Prop
  | .write path _ => v.isDirectory path = true ∨ v.Blocked path
  | .makeDirectory path =>
    (∃ contents, v.node? path = some (.file contents)) ∨ v.node? path = none ∧ v.Blocked path
  | .delete path => path = ""

theorem IsTree.ancestors_ok_iff (tree : v.IsTree) (plain : Plain (t ++ [p])) :
    (v.makeAll (Path.ancestors (ofTrail (t ++ [p])))).1 = .ok () ↔
      ¬v.Blocked (ofTrail (t ++ [p])) := by
  rw [makeAll_ok_iff, Path.ancestors_ofTrail plain]
  unfold Blocked
  rw [Path.trail_ofTrail plain]
  constructor
  · rintro free ⟨s, u, contents, whole, below, found⟩
    by_cases root : s = []
    · rw [root] at found
      rw [show ofTrail [] = "" from rfl, tree.root] at found
      cases found
    · have onWay : s <+: t := by
        have shorter : s <+: t ++ [p] := whole ▸ List.prefix_append s u
        rcases List.prefix_concat_iff.mp shorter with all | inside
        · rw [all] at whole
          exact absurd (List.append_right_eq_self.mp whole.symm) below
        · exact inside
      have among := Path.join_mem_prefixes root [] onWay
      exact free _ (List.mem_map_of_mem among) contents found
  · intro clear d here contents found
    obtain ⟨text, among, rfl⟩ := List.mem_map.mp here
    obtain ⟨further, ⟨left, rfl⟩, rfl⟩ := Path.mem_prefixes among
    exact clear ⟨further, left ++ [p], contents, List.append_assoc .., by simp, found⟩

theorem IsTree.ancestors_failed (tree : v.IsTree) (plain : Plain (t ++ [p]))
    (failed : (v.makeAll (Path.ancestors (ofTrail (t ++ [p])))).1 ≠ .ok ()) :
    (v.makeAll (Path.ancestors (ofTrail (t ++ [p])))).2 = v := by
  rw [Path.ancestors_ofTrail plain] at failed ⊢
  exact tree.makeAll_failed t [] (Path.plain_append.mp plain).1 failed

/-- A change is refused for what stands against it, and then it changes nothing. -/
def AllOrNothing (v : Volume) (e : Edit) : Prop :=
  ((e.perform v).1 = .ok () ↔ ¬v.Refuses e) ∧
    ((e.perform v).1 ≠ .ok () → (e.perform v).2 = v)

theorem delete_whole (v : Volume) (path : String) : v.AllOrNothing (.delete path) := by
  show ((v.delete path).1 = .ok () ↔ ¬path = "") ∧
    ((v.delete path).1 ≠ .ok () → (v.delete path).2 = v)
  by_cases root : path = ""
  · rw [root]
    exact ⟨iff_of_false nofun fun below => below rfl, fun _ => rfl⟩
  · have made : (v.delete path).1 = .ok () := by
      unfold Volume.delete
      rw [if_neg (by rwa [String.isEmpty_iff])]
    exact ⟨iff_of_true made root, fun failed => absurd made failed⟩

namespace IsTree

theorem write_whole (tree : v.IsTree) {path : String} (normal : Path.normalize path = path)
    (contents : Bytes) : v.AllOrNothing (.write path contents) := by
  show ((v.write path contents).1 = .ok () ↔ ¬(v.isDirectory path = true ∨ v.Blocked path)) ∧
    ((v.write path contents).1 ≠ .ok () → (v.write path contents).2 = v)
  unfold Volume.write
  split
  · next directory => exact ⟨iff_of_false nofun fun clear => clear (.inl directory), fun _ => rfl⟩
  · next free =>
    rcases Path.root_or_below normal with rfl | ⟨t, p, plain, rfl⟩
    · exact absurd (isDirectory_iff.mpr tree.root) free
    · have clear := tree.ancestors_ok_iff plain
      have unmade := tree.ancestors_failed plain
      rw [or_iff_right free, ← clear]
      generalize v.makeAll (Path.ancestors (ofTrail (t ++ [p]))) = came at unmade ⊢
      obtain ⟨result, v'⟩ := came
      cases result with
      | error => exact ⟨Iff.rfl, unmade⟩
      | ok => exact ⟨Iff.rfl, fun failed => absurd rfl failed⟩

theorem makeDirectory_whole (tree : v.IsTree) {path : String}
    (normal : Path.normalize path = path) : v.AllOrNothing (.makeDirectory path) := by
  show ((v.makeDirectory path).1 = .ok () ↔ ¬((∃ contents, v.node? path = some (.file contents)) ∨
      v.node? path = none ∧ v.Blocked path)) ∧
    ((v.makeDirectory path).1 ≠ .ok () → (v.makeDirectory path).2 = v)
  unfold Volume.makeDirectory
  cases held : v.node? path with
  | some node =>
    cases node with
    | directory => exact ⟨iff_of_true rfl (by simp), fun failed => absurd rfl failed⟩
    | file contents => exact ⟨iff_of_false nofun (by simp), fun _ => rfl⟩
  | none =>
    rcases Path.root_or_below normal with rfl | ⟨t, p, plain, rfl⟩
    · rw [tree.root] at held
      cases held
    · have clear := tree.ancestors_ok_iff plain
      have unmade := tree.ancestors_failed plain
      rw [or_iff_right nofun, and_iff_right rfl, ← clear]
      simp only
      generalize v.makeAll (Path.ancestors (ofTrail (t ++ [p]))) = came at unmade ⊢
      obtain ⟨result, v'⟩ := came
      cases result with
      | error => exact ⟨Iff.rfl, unmade⟩
      | ok => exact ⟨Iff.rfl, fun failed => absurd rfl failed⟩

theorem edit_whole (tree : v.IsTree) (e : Edit) (normal : Path.normalize e.path = e.path) :
    v.AllOrNothing e := by
  cases e with
  | write path contents => exact tree.write_whole normal contents
  | makeDirectory path => exact tree.makeDirectory_whole normal
  | delete path => exact delete_whole v path

/-- What is deleted is the path and all below it. -/
theorem delete_nodes (tree : v.IsTree) {path : String} (normal : Path.normalize path = path)
    (below : path ≠ "") :
    (v.delete path).2.nodes = v.nodes.filter fun n => ¬trail path <+: trail n.1 := by
  rw [delete_eq below]
  refine List.filter_congr fun n here => ?_
  have covers := Path.covers_ofTrail (Path.trail_plain path) (Path.trail_plain n.1)
  rw [Path.ofTrail_trail normal, Path.ofTrail_trail (tree.normal n here)] at covers
  refine decide_eq_decide.mpr ?_
  rw [← covers, Bool.not_eq_true]

end IsTree

/-! ## Files that are added -/

/-- By induction on the files: those that cannot be added change nothing. -/
theorem Edited.addFiles (files : List (String × Bytes)) : ∀ {v : Volume}, v.Edited →
    (∀ f ∈ files, Path.normalize f.1 = f.1) → (v.addFiles files).2.Edited := by
  induction files with
  | nil => exact fun edited _ => edited
  | cons f rest ih =>
    intro v edited normal
    obtain ⟨first, others⟩ := List.forall_mem_cons.mp normal
    obtain ⟨path, contents⟩ := f
    have written := edited.edit (.write path contents) first
    have came := ih written others
    unfold Volume.addFiles
    change ((v.write path contents).2.addFiles rest).2.Edited at came
    generalize v.write path contents = wrote at came ⊢
    obtain ⟨result, v'⟩ := wrote
    cases result <;> exact came

/-! ## Histories -/

/-- What an empty volume becomes by writing, making directories and deleting under normalised paths
is a tree: the root is a directory, and so is whatever has something below it. A deletion takes away
a path and all below it, and nothing else. A change fails just if a directory or a file is in the
way, or if it were to delete the root, and then it leaves all as it was. -/
theorem edits_atomic (edited : v.Edited) :
    v.node? "" = some .directory ∧
    (∀ n ∈ v.nodes, Path.normalize n.1 = n.1 ∧
      (n.1 ≠ "" → v.node? (Path.parent n.1) = some .directory)) ∧
    (∀ t u, Plain (t ++ u) → u ≠ [] → v.has (ofTrail (t ++ u)) = true →
      v.node? (ofTrail t) = some .directory) ∧
    (∀ path, Path.normalize path = path → path ≠ "" → (v.delete path).1 = .ok () ∧
      (v.delete path).2.nodes = v.nodes.filter fun n => ¬trail path <+: trail n.1) ∧
    (∀ e : Edit, Path.normalize e.path = e.path → ((e.perform v).1 = .ok () ↔ ¬v.Refuses e) ∧
      ((e.perform v).1 ≠ .ok () → (e.perform v).2 = v) ∧ (e.perform v).2.Edited) ∧
    ∀ files, (∀ f ∈ files, Path.normalize f.1 = f.1) → (v.addFiles files).2.Edited := by
  have tree := edited.isTree
  refine ⟨tree.root, fun n here => ⟨tree.normal n here, fun below => ?_⟩,
    fun t u plain below present => tree.above plain below present,
    fun path normal below => ⟨(delete_whole v path).1.mpr below, tree.delete_nodes normal below⟩,
    fun e normal => ?_, fun files => edited.addFiles files⟩
  · rcases Path.root_or_below (tree.normal n here) with root | ⟨t, p, plain, text⟩
    · exact absurd root below
    · have last := Path.plain_single.mp (Path.plain_append.mp plain).2
      rw [text, Path.parent_ofTrail last]
      exact tree.parent t p plain (has_iff.mpr ⟨n, here, text⟩)
  · obtain ⟨refused, whole⟩ := tree.edit_whole e normal
    exact ⟨refused, whole, edited.edit e normal⟩

/-! ## A file in the way -/

def trunkEdits : List Edit :=
  [.makeDirectory "a/b", .write "a/b/c" [1], .write "x/y" [2], .delete "x"]

/-- A directory with a file in it, and another one that was made and deleted. -/
def trunk : Volume := trunkEdits.foldl (fun v e => (e.perform v).2) .empty

theorem trunk_edited : trunk.Edited :=
  (((Edited.empty.edit (.makeDirectory "a/b") rfl).edit (.write "a/b/c" [1]) rfl).edit
    (.write "x/y" [2]) rfl).edit (.delete "x") rfl

/-- The file stops a write below it, and no directory is left behind. -/
theorem edits_atomic_trunk : trunk.Edited ∧ trunk.Refuses (.write "a/b/c/d/e" []) ∧
    (trunk.write "a/b/c/d/e" []).1 ≠ .ok () ∧ (trunk.write "a/b/c/d/e" []).2 = trunk := by
  obtain ⟨-, -, -, -, changes, -⟩ := edits_atomic trunk_edited
  obtain ⟨refused, whole, -⟩ := changes (.write "a/b/c/d/e" []) rfl
  have blocked : trunk.Refuses (.write "a/b/c/d/e" []) := by
    refine .inr ⟨[['a'], ['b'], ['c']], [['d'], ['e']], [1], rfl, nofun, rfl⟩
  have failed : (trunk.write "a/b/c/d/e" []).1 ≠ .ok () := fun done => refused.mp done blocked
  exact ⟨trunk_edited, blocked, failed, whole failed⟩

end Volume

end DeviceBridge
