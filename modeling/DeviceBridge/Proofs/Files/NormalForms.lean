import DeviceBridge.Proofs.Files.Trails

/-
  Normal forms as texts. A text is in normal form if it is a join of plain names (`IsNormal`), and
  these are what normalisation leaves and leaves alone. Since what goes on behind a path has only to
  do with where that path leads, it may be normalised before (`normal_forms`).
-/

namespace DeviceBridge.Path

variable {t : Trail} {p : List Char}

/-! ## Texts in normal form -/

/-- The text is empty or a join of plain names. -/
def IsNormal (path : String) : Prop :=
  ∃ names : List String, (∀ name ∈ names, IsPlain name.toList) ∧ path = "/".intercalate names

/-- By induction on the components. -/
theorem join_eq_intercalate (t : Trail) : join t = ['/'].intercalate t := by
  induction t with
  | nil => rfl
  | cons p rest ih =>
    cases rest with
    | nil => exact List.intercalate_singleton.symm
    | cons q more =>
      rw [List.intercalate_cons_cons, ← ih, List.append_assoc]
      rfl

theorem ofTrail_eq_intercalate (t : Trail) :
    ofTrail t = "/".intercalate (t.map String.ofList) := by
  have texts : (t.map String.ofList).map String.toList = t := by
    rw [List.map_map]
    exact List.map_id'' (fun _ => String.toList_ofList) t
  rw [← String.toList_inj, String.toList_intercalate, texts]
  unfold ofTrail
  rw [String.toList_ofList, join_eq_intercalate]
  rfl

theorem isNormal_ofTrail (plain : Plain t) : IsNormal (ofTrail t) := by
  refine ⟨t.map String.ofList, fun name here => ?_, ofTrail_eq_intercalate t⟩
  obtain ⟨p, inside, rfl⟩ := List.mem_map.mp here
  rw [String.toList_ofList]
  exact plain p inside

theorem isNormal_normalize (path : String) : IsNormal (normalize path) :=
  isNormal_ofTrail (trail_plain path)

/-- Normalisation leaves a text as it is just if it is in normal form. -/
theorem normalize_eq_self_iff {path : String} : normalize path = path ↔ IsNormal path := by
  constructor
  · intro same
    rw [← same]
    exact isNormal_normalize path
  · rintro ⟨names, plain, rfl⟩
    have texts : (names.map String.toList).map String.ofList = names := by
      rw [List.map_map]
      exact List.map_id'' (fun _ => String.ofList_toList) names
    have joined := ofTrail_eq_intercalate (names.map String.toList)
    rw [texts] at joined
    rw [← joined]
    exact normalize_ofTrail (List.forall_mem_map.mpr plain)

/-! ## Going on -/

theorem trail_normalize (path : String) : trail (normalize path) = trail path :=
  trail_ofTrail (trail_plain path)

/-- To go up is to drop the last component, and the root is its own parent. -/
theorem follow_up (t : Trail) : follow t ".." = t.dropLast := by
  show (t.reverse.tail).reverse = _
  rw [List.tail_reverse, List.reverse_reverse]

/-- Normalisation leaves plain names joined by slashes, and a text is left as it is just if it is of
that form. One level up from the root is the root. Whatever a path goes on with, with `..` any
number of times, leads to the same place behind any other spelling of its beginning. -/
theorem normal_forms (a b : String) :
    IsNormal (normalize a) ∧ normalize (normalize a) = normalize a ∧
    (normalize a = a ↔ IsNormal a) ∧
    trail (a ++ "/" ++ "..") = (trail a).dropLast ∧
    normalize (a ++ "/" ++ b) = normalize (normalize a ++ "/" ++ b) := by
  refine ⟨isNormal_normalize a, normalize_normalize a, normalize_eq_self_iff, ?_, ?_⟩
  · rw [trail_append, follow_up]
  · have place : trail (a ++ "/" ++ b) = trail (normalize a ++ "/" ++ b) := by
      calc trail (a ++ "/" ++ b)
        _ = follow (trail a) b := trail_append a b
        _ = follow (trail (normalize a)) b := by rw [trail_normalize]
        _ = trail (normalize a ++ "/" ++ b) := (trail_append (normalize a) b).symm
    exact congrArg ofTrail place

end DeviceBridge.Path
