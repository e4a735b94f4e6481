import DeviceBridge.Files.Volume
import DeviceBridge.Proofs.Files.Trails
import Mathlib.Data.List.Nodup

/-
  Volumes are trees. The root is a directory, and so is the parent of whatever a volume holds
  (`IsTree`); writes, new directories and deletions under normalised paths keep that, also where
  they fail half-way (`IsTree.edit`). In a tree a directory lists the names of just the paths that
  are directly below it, each once (`IsTree.lists`).
-/

namespace DeviceBridge.Volume

open DeviceBridge.Path (Trail Plain IsPlain ofTrail trail)

variable {v : Volume} {t : Trail} {p : List Char}

/-! ## Nodes -/

/-- By induction on the nodes: what stands before the new node has another path. -/
theorem find?_insertNode (path : String) (node : Node) (nodes : List (String × Node))
    (q : String) : (insertNode path node nodes).find? (fun n => n.1 == q) =
      if q = path then some (path, node) else nodes.find? fun n => n.1 == q := by
  have first (rest : List (String × Node)) :
      ((path, node) :: rest).find? (fun n => n.1 == q) =
        if q = path then some (path, node) else rest.find? fun n => n.1 == q := by
    by_cases mine : q = path
    · simp [mine]
    · simp [mine, Ne.symm mine]
  induction nodes with
  | nil => exact first []
  | cons n rest ih =>
    obtain ⟨k, held⟩ := n
    unfold insertNode
    split
    · next same =>
      rw [first]
      by_cases mine : q = path
      · rw [if_pos mine, if_pos mine]
      · have other : k ≠ q := fun found => mine (found ▸ same)
        simp [mine, other]
    · next differs =>
      split
      · exact first _
      · rw [List.find?_cons, List.find?_cons, ih]
        by_cases mine : q = path
        · have other : (k == q) = false := beq_false_of_ne fun found => differs (found.trans mine)
          simp [mine, mine ▸ other]
        · simp [mine]

theorem node?_insert (v : Volume) (path : String) (node : Node) (q : String) :
    (v.insert path node).node? q = if q = path then some node else v.node? q := by
  unfold node? insert
  rw [find?_insertNode]
  split <;> rfl

theorem mem_insertNode {path : String} {node : Node} {nodes : List (String × Node)}
    {n : String × Node} (here : n ∈ insertNode path node nodes) :
    n = (path, node) ∨ n ∈ nodes := by
  induction nodes with
  | nil => exact .inl (List.mem_singleton.mp here)
  | cons first rest ih =>
    unfold insertNode at here
    split at here
    · rcases List.mem_cons.mp here with new | old
      · exact .inl new
      · exact .inr (.tail _ old)
    · split at here
      · rcases List.mem_cons.mp here with new | old
        · exact .inl new
        · exact .inr old
      · rcases List.mem_cons.mp here with rfl | later
        · exact .inr (.head _)
        · exact (ih later).imp_right (.tail _)

/-- By induction on the nodes. -/
theorem insertNode_ascending (path : String) (node : Node) {nodes : List (String × Node)}
    (ascending : nodes.Pairwise fun a b => a.1 < b.1) :
    (insertNode path node nodes).Pairwise fun a b => a.1 < b.1 := by
  induction nodes with
  | nil => exact List.pairwise_singleton _ _
  | cons first rest ih =>
    obtain ⟨lowest, others⟩ := List.pairwise_cons.mp ascending
    unfold insertNode
    split
    · next same => exact List.pairwise_cons.mpr ⟨fun n here => same ▸ lowest n here, others⟩
    · next differs =>
      split
      · next before =>
        refine List.pairwise_cons.mpr ⟨fun n here => ?_, ascending⟩
        rcases List.mem_cons.mp here with rfl | later
        · exact before
        · exact String.lt_trans before (lowest n later)
      · next behind =>
        refine List.pairwise_cons.mpr ⟨fun n here => ?_, ih others⟩
        rcases mem_insertNode here with rfl | later
        · exact String.not_le.mp fun upper => differs (String.le_antisymm behind upper)
        · exact lowest n later

theorem has_iff {path : String} : v.has path = true ↔ ∃ n ∈ v.nodes, n.1 = path := by
  unfold has node?
  rw [Option.isSome_map, List.find?_isSome]
  simp only [beq_iff_eq]

theorem isDirectory_iff {path : String} :
    v.isDirectory path = true ↔ v.node? path = some .directory := beq_iff_eq

/-! ## Deletions -/

/-- What is deleted is the path with all that it covers. -/
theorem delete_eq {path : String} (below : path ≠ "") : (v.delete path).2 =
    ⟨v.nodes.filter fun n => Path.covers path n.1 = false⟩ := by
  have some : path.isEmpty = false := by
    rw [Bool.eq_false_iff, Ne, String.isEmpty_iff]
    exact below
  unfold Volume.delete Path.covers
  rw [some]
  simp only [Bool.false_eq_true, if_false, Bool.false_or, Bool.or_eq_false_iff, beq_eq_false_iff_ne,
    Bool.not_eq_true]

theorem node?_delete {path : String} (below : path ≠ "") (q : String) :
    (v.delete path).2.node? q = if Path.covers path q = true then none else v.node? q := by
  rw [delete_eq below]
  unfold node?
  rw [List.find?_filter]
  split
  · next covered =>
    refine congrArg _ (List.find?_eq_none.mpr fun n _ found => ?_)
    simp only [decide_eq_true_eq, beq_iff_eq] at found
    rw [found.2, covered] at found
    exact absurd found.1 nofun
  · next apart =>
    congr 2
    funext n
    by_cases mine : n.1 = q
    · simp [mine, apart]
    · simp [mine]

/-! ## Trees -/

structure IsTree (v : Volume) : Prop where
  ascending : v.nodes.Pairwise fun a b => a.1 < b.1
  normal : ∀ n ∈ v.nodes, Path.normalize n.1 = n.1
  root : v.node? "" = some .directory
  parent : ∀ (t : Trail) (p : List Char), Plain (t ++ [p]) →
    v.has (ofTrail (t ++ [p])) = true → v.node? (ofTrail t) = some .directory

namespace IsTree

theorem empty : Volume.empty.IsTree := by
  refine ⟨List.pairwise_singleton _ _, fun n here => ?_, rfl, fun t p plain present => ?_⟩
  · rw [List.mem_singleton.mp here]
    rfl
  · obtain ⟨n, here, named⟩ := has_iff.mp present
    rw [List.mem_singleton.mp here] at named
    have nothing := (Path.ofTrail_eq_empty plain).mp named.symm
    simp at nothing

theorem insert (tree : v.IsTree) (plain : Plain (t ++ [p]))
    (above : v.node? (ofTrail t) = some .directory) {node : Node}
    (fits : node = .directory ∨ v.node? (ofTrail (t ++ [p])) ≠ some .directory) :
    (v.insert (ofTrail (t ++ [p])) node).IsTree := by
  have apart {s : Trail} {q : List Char} (plain' : Plain (s ++ [q])) :
      ofTrail s ≠ ofTrail (s ++ [q]) := by
    rw [Ne, Path.ofTrail_inj (Path.plain_append.mp plain').1 plain']
    simp
  refine ⟨insertNode_ascending _ _ tree.ascending, fun n here => ?_, ?_,
    fun s q plain' present => ?_⟩
  · rcases mem_insertNode here with rfl | old
    · exact Path.normalize_ofTrail plain
    · exact tree.normal n old
  · rw [node?_insert, if_neg fun same => ?_]
    · exact tree.root
    · have nothing := (Path.ofTrail_eq_empty plain).mp same.symm
      simp at nothing
  · unfold has at present
    rw [node?_insert] at present ⊢
    split at present
    · next same =>
      have ends := (Path.ofTrail_inj plain' plain).mp same
      obtain ⟨rfl, -⟩ := List.append_inj' ends rfl
      rw [if_neg (apart plain)]
      exact above
    · have old := tree.parent s q plain' present
      split
      · next same =>
        rw [same] at old
        rcases fits with rfl | held
        · rfl
        · exact absurd old held
      · exact old

/-! ## Ancestors -/

/-- To make missing directories changes nothing that is there. -/
theorem makeAll_node? (ds : List String) : ∀ (v : Volume) (q : String),
    (v.makeAll ds).2.node? q = v.node? q ∨
      q ∈ ds ∧ (v.makeAll ds).2.node? q = some .directory := by
  induction ds with
  | nil => exact fun v q => .inl rfl
  | cons d rest ih =>
    intro v q
    unfold makeAll
    split
    · exact .inl rfl
    · exact (ih v q).imp_right fun ⟨here, made⟩ => ⟨.tail _ here, made⟩
    · rcases ih (v.insert d .directory) q with same | ⟨here, made⟩
      · rw [same, node?_insert]
        split
        · next mine => exact .inr ⟨mine ▸ .head _, rfl⟩
        · exact .inl rfl
      · exact .inr ⟨.tail _ here, made⟩

/-- By induction on the way down: each directory is made inside the one before it. -/
theorem makeAll (further : Trail) : ∀ {v : Volume} {before : Trail}, v.IsTree →
    Plain (before ++ further) → v.node? (ofTrail before) = some .directory →
    (v.makeAll ((Path.prefixes before further).map String.ofList)).2.IsTree ∧
      ((v.makeAll ((Path.prefixes before further).map String.ofList)).1 = .ok () →
        (v.makeAll ((Path.prefixes before further).map String.ofList)).2.node?
          (ofTrail (before ++ further)) = some .directory) := by
  induction further with
  | nil =>
    intro v before tree plain above
    rw [List.append_nil]
    exact ⟨tree, fun _ => above⟩
  | cons p rest ih =>
    intro v before tree plain above
    have split : before ++ p :: rest = (before ++ [p]) ++ rest := by simp
    have first : Plain (before ++ [p]) := by
      rw [split] at plain
      exact (Path.plain_append.mp plain).1
    rw [split] at plain ⊢
    show (v.makeAll (ofTrail (before ++ [p]) :: _)).2.IsTree ∧
      ((v.makeAll (ofTrail (before ++ [p]) :: _)).1 = .ok () →
        (v.makeAll (ofTrail (before ++ [p]) :: _)).2.node? _ = _)
    unfold Volume.makeAll
    split
    · exact ⟨tree, fun done => by cases done⟩
    · next held => exact ih tree plain held
    · next free =>
      have made := node?_insert v (ofTrail (before ++ [p])) .directory (ofTrail (before ++ [p]))
      rw [if_pos rfl] at made
      exact ih (tree.insert first above (.inl rfl)) plain made

/-- The directories on the way to a path, as far as they can be made. -/
theorem makeAncestors (tree : v.IsTree) (plain : Plain (t ++ [p])) :
    (v.makeAll (Path.ancestors (ofTrail (t ++ [p])))).2.IsTree ∧
      (v.makeAll (Path.ancestors (ofTrail (t ++ [p])))).2.node? (ofTrail (t ++ [p])) =
        v.node? (ofTrail (t ++ [p])) ∧
      ((v.makeAll (Path.ancestors (ofTrail (t ++ [p])))).1 = .ok () →
        (v.makeAll (Path.ancestors (ofTrail (t ++ [p])))).2.node? (ofTrail t) =
          some .directory) := by
  obtain ⟨above, -⟩ := Path.plain_append.mp plain
  rw [Path.ancestors_ofTrail plain]
  obtain ⟨tree', made⟩ := makeAll t tree (show Plain ([] ++ t) from above) tree.root
  refine ⟨tree', ?_, made⟩
  rcases makeAll_node? ((Path.prefixes [] t).map String.ofList) v (ofTrail (t ++ [p])) with
    same | ⟨here, -⟩
  · exact same
  · -- The path itself is longer than every ancestor.
    obtain ⟨d, among, same⟩ := List.mem_map.mp here
    obtain ⟨further, ⟨left, whole⟩, rfl⟩ := Path.mem_prefixes among
    have shorter : Plain further := fun q inside => above q (whole ▸ List.mem_append_left _ inside)
    have equal := (Path.ofTrail_inj shorter plain).mp same
    have lengths := congrArg List.length whole
    rw [equal] at lengths
    simp at lengths

/-! ## Changes -/

theorem write (tree : v.IsTree) {path : String} (normal : Path.normalize path = path)
    (contents : Bytes) : (v.write path contents).2.IsTree := by
  unfold Volume.write
  split
  · exact tree
  · next free =>
    rcases Path.root_or_below normal with rfl | ⟨t, p, plain, rfl⟩
    · exact absurd (isDirectory_iff.mpr tree.root) free
    · obtain ⟨tree', same, made⟩ := tree.makeAncestors plain
      generalize v.makeAll (Path.ancestors (ofTrail (t ++ [p]))) = came at tree' same made ⊢
      obtain ⟨result, v'⟩ := came
      cases result with
      | error => exact tree'
      | ok =>
        refine tree'.insert plain (made rfl) (.inr fun held => free ?_)
        exact isDirectory_iff.mpr (same ▸ held)

theorem makeDirectory (tree : v.IsTree) {path : String} (normal : Path.normalize path = path) :
    (v.makeDirectory path).2.IsTree := by
  unfold Volume.makeDirectory
  split
  · exact tree
  · exact tree
  · next free =>
    rcases Path.root_or_below normal with rfl | ⟨t, p, plain, rfl⟩
    · rw [tree.root] at free
      cases free
    · obtain ⟨tree', -, made⟩ := tree.makeAncestors plain
      generalize v.makeAll (Path.ancestors (ofTrail (t ++ [p]))) = came at tree' made ⊢
      obtain ⟨result, v'⟩ := came
      cases result with
      | error => exact tree'
      | ok => exact tree'.insert plain (made rfl) (.inl rfl)

theorem delete (tree : v.IsTree) {path : String} (normal : Path.normalize path = path) :
    (v.delete path).2.IsTree := by
  by_cases root : path = ""
  · subst root
    exact tree
  · have covers {t : Trail} (plain : Plain t) :
        Path.covers path (ofTrail t) = true ↔ trail path <+: t := by
      have same := Path.covers_ofTrail (Path.trail_plain path) plain
      rwa [Path.ofTrail_trail normal] at same
    refine ⟨?_, ?_, ?_, fun t p plain present => ?_⟩
    · rw [delete_eq root]
      exact tree.ascending.filter _
    · rw [delete_eq root]
      exact fun n here => tree.normal n (List.mem_of_mem_filter here)
    · have above : ¬Path.covers path "" = true := by
        intro covered
        have nothing := List.prefix_nil.mp ((covers Path.plain_nil).mp covered)
        rw [← Path.ofTrail_trail normal, nothing] at root
        exact root rfl
      rw [node?_delete root, if_neg above]
      exact tree.root
    · obtain ⟨above, -⟩ := Path.plain_append.mp plain
      unfold has at present
      rw [node?_delete root] at present ⊢
      split at present
      · cases present
      · next apart =>
        rw [if_neg fun covered => apart ?_]
        · exact tree.parent t p plain present
        · exact (covers plain).mpr (((covers above).mp covered).trans (List.prefix_append t [p]))

end IsTree

/-! ## Histories -/

/-- A change of a volume. -/
inductive Edit where
  | write (path : String) (contents : Bytes)
  | makeDirectory (path : String)
  | delete (path : String)

namespace Edit

def path : Edit → String
  | write path _ | makeDirectory path | delete path => path

def perform (v : Volume) : Edit → Except FileError Unit × Volume
  | write path contents => v.write path contents
  | makeDirectory path => v.makeDirectory path
  | delete path => v.delete path

end Edit

/-- A step lemma: every change under a normalised path keeps a tree, whether it succeeds or not. -/
theorem IsTree.edit (tree : v.IsTree) (e : Edit) (normal : Path.normalize e.path = e.path) :
    (e.perform v).2.IsTree := by
  cases e with
  | write path contents => exact tree.write normal contents
  | makeDirectory path => exact tree.makeDirectory normal
  | delete path => exact tree.delete normal

/-- What becomes of an empty volume under changes of normalised paths. -/
inductive Edited : Volume → Prop where
  | empty : Edited .empty
  | edit {v : Volume} (before : Edited v) (e : Edit) (normal : Path.normalize e.path = e.path) :
      Edited (e.perform v).2

/-- By induction on the changes. -/
theorem Edited.isTree (edited : v.Edited) : v.IsTree := by
  induction edited with
  | empty => exact .empty
  | edit _ e normal ih => exact ih.edit e normal

/-! ## Listings -/

/-- The node that lies directly below a directory under a name. -/
theorem IsTree.child_iff (tree : v.IsTree) (plain : Plain t) {n : String × Node}
    (here : n ∈ v.nodes) {name : String} :
    (n.1 ≠ "" ∧ n.1 ≠ ofTrail t ∧ Path.parent n.1 = ofTrail t) ∧ Path.name n.1 = name ↔
      IsPlain name.toList ∧ n.1 = ofTrail (t ++ [name.toList]) := by
  constructor
  · rintro ⟨⟨below, -, parent⟩, rfl⟩
    rcases Path.root_or_below (tree.normal n here) with root | ⟨u, p, plain', text⟩
    · exact absurd root below
    · obtain ⟨above, last⟩ := Path.plain_append.mp plain'
      have last := Path.plain_single.mp last
      rw [text, Path.parent_ofTrail last, Path.ofTrail_inj above plain] at parent
      subst parent
      rw [text, Path.name_ofTrail last, String.toList_ofList]
      exact ⟨last, rfl⟩
  · rintro ⟨last, text⟩
    have plain' : Plain (t ++ [name.toList]) :=
      Path.plain_append.mpr ⟨plain, Path.plain_single.mpr last⟩
    rw [text]
    refine ⟨⟨fun root => ?_, fun same => ?_, Path.parent_ofTrail last⟩, ?_⟩
    · have nothing := (Path.ofTrail_eq_empty plain').mp root
      simp at nothing
    · have nothing := (Path.ofTrail_inj plain' plain).mp same
      simp at nothing
    · rw [Path.name_ofTrail last, String.ofList_toList]

theorem IsTree.keys (tree : v.IsTree) : (v.nodes.map (·.1)).Nodup := by
  refine List.pairwise_map.mpr (tree.ascending.imp fun {n m} before same => ?_)
  rw [same] at before
  exact String.lt_irrefl m.1 before

/-- A directory lists the names of what lies directly below it, each once. -/
theorem IsTree.lists (tree : v.IsTree) (plain : Plain t)
    (directory : v.isDirectory (ofTrail t) = true) :
    ∃ names, v.list (ofTrail t) = .ok names ∧ names.Nodup ∧ ∀ name : String, name ∈ names ↔
      IsPlain name.toList ∧ v.has (ofTrail (t ++ [name.toList])) = true := by
  unfold list
  rw [if_pos directory]
  refine ⟨_, rfl, ?_, fun name => ?_⟩
  · -- Below one directory a name tells the path.
    refine List.Nodup.map_on ?_ ((List.Nodup.of_map _ tree.keys).filter _)
    intro n here m there same
    obtain ⟨here, fits⟩ := List.mem_filter.mp here
    obtain ⟨there, fits'⟩ := List.mem_filter.mp there
    have first := ((tree.child_iff plain here).mp ⟨of_decide_eq_true fits, same⟩).2
    have second := ((tree.child_iff plain there).mp ⟨of_decide_eq_true fits', rfl⟩).2
    exact List.inj_on_of_nodup_map tree.keys here there (first.trans second.symm)
  · rw [List.mem_map, has_iff]
    constructor
    · rintro ⟨n, here, named⟩
      obtain ⟨here, fits⟩ := List.mem_filter.mp here
      obtain ⟨last, text⟩ := (tree.child_iff plain here).mp ⟨of_decide_eq_true fits, named⟩
      exact ⟨last, n, here, text⟩
    · rintro ⟨last, n, here, text⟩
      obtain ⟨fits, named⟩ := (tree.child_iff plain here).mpr ⟨last, text⟩
      exact ⟨n, List.mem_filter.mpr ⟨here, decide_eq_true fits⟩, named⟩

end DeviceBridge.Volume
