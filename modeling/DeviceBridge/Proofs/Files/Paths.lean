import DeviceBridge.Files.Path

/-
  Normal forms of paths. The components that a path leads through are plain, and to take apart what
  was joined of plain components gives these back (`components_join`). So a path that is normalised
  stays as it is: `normalize_normalize`.
-/

namespace DeviceBridge.Path

/-! ## Taking apart what was joined -/

theorem pieces_cons (c : Char) (cs : List Char) : pieces (c :: cs) =
    if isSeparator c then [] :: pieces cs
    else match pieces cs with
      | [] => [[c]]
      | p :: ps => (c :: p) :: ps := rfl

theorem pieces_plain {piece : List Char} (plain : ∀ c ∈ piece, isSeparator c = false) :
    pieces piece = [piece] := by
  induction piece with
  | nil => rfl
  | cons c cs ih =>
    have rest := ih fun d here => plain d (.tail _ here)
    have first := plain c (.head _)
    rw [pieces_cons, first, rest]
    rfl

theorem pieces_append {piece : List Char} (plain : ∀ c ∈ piece, isSeparator c = false)
    (cs : List Char) : pieces (piece ++ '/' :: cs) = piece :: pieces cs := by
  induction piece with
  | nil => rfl
  | cons c rest ih =>
    have others := ih fun d here => plain d (.tail _ here)
    have first := plain c (.head _)
    rw [List.cons_append, pieces_cons, first, others]
    rfl

/-- By induction on the components, of which there are some. -/
theorem pieces_join {p : List Char} {ps : List (List Char)}
    (plain : ∀ q ∈ p :: ps, ∀ c ∈ q, isSeparator c = false) :
    pieces (join (p :: ps)) = p :: ps := by
  induction ps generalizing p with
  | nil => exact pieces_plain (plain p (.head _))
  | cons q qs ih =>
    show pieces (p ++ '/' :: join (q :: qs)) = _
    rw [pieces_append (plain p (.head _)), ih fun r here => plain r (.tail _ here)]

/-- Every plain piece is a step down. -/
theorem foldl_walk_plain {ps : List (List Char)} (plain : ∀ p ∈ ps, IsPlain p) :
    ∀ stack, ps.foldl walk stack = ps.reverse ++ stack := by
  induction ps with
  | nil => exact fun _ => rfl
  | cons p rest ih =>
    intro stack
    obtain ⟨some, here, up, -⟩ := plain p (.head _)
    have down : walk stack p = p :: stack := by
      unfold walk
      rw [if_neg (not_or.mpr ⟨some, here⟩), if_neg up]
    rw [List.foldl_cons, down, ih fun q inside => plain q (.tail _ inside), List.reverse_cons,
      List.append_assoc]
    rfl

theorem components_join {ps : List (List Char)} (plain : ∀ p ∈ ps, IsPlain p) :
    components (join ps) = ps := by
  cases ps with
  | nil => rfl
  | cons p rest =>
    unfold components
    rw [pieces_join fun q here => (plain q here).2.2.2, foldl_walk_plain plain, List.append_nil,
      List.reverse_reverse]

/-! ## Components are plain -/

/-- By induction on the characters. -/
theorem pieces_separated (cs : List Char) :
    ∀ p ∈ pieces cs, ∀ c ∈ p, isSeparator c = false := by
  induction cs with
  | nil =>
    intro p here c inside
    rw [List.mem_singleton.mp here] at inside
    cases inside
  | cons d ds ih =>
    rw [pieces_cons]
    cases separates : isSeparator d with
    | true =>
      intro p here c inside
      rcases List.mem_cons.mp here with rfl | later
      · cases inside
      · exact ih p later c inside
    | false =>
      cases split : pieces ds with
      | nil => exact absurd split (pieces_ne_nil ds)
      | cons q qs =>
        rw [split] at ih
        intro p here c inside
        rcases List.mem_cons.mp here with rfl | later
        · rcases List.mem_cons.mp inside with rfl | further
          · exact separates
          · exact ih q (.head _) c further
        · exact ih p (.tail _ later) c inside

/-- By induction on the pieces: what is on the stack stays plain. -/
theorem foldl_walk_kept {ps : List (List Char)}
    (separated : ∀ p ∈ ps, ∀ c ∈ p, isSeparator c = false) :
    ∀ {stack : List (List Char)}, (∀ p ∈ stack, IsPlain p) →
      ∀ p ∈ ps.foldl walk stack, IsPlain p := by
  induction ps with
  | nil => exact fun plain => plain
  | cons q rest ih =>
    intro stack plain
    refine ih (fun p here => separated p (.tail _ here)) ?_
    unfold walk
    split
    · exact plain
    · next stays =>
      split
      · exact fun p here => plain p (List.mem_of_mem_tail here)
      · next up =>
        obtain ⟨some, here⟩ := not_or.mp stays
        intro p inside
        rcases List.mem_cons.mp inside with rfl | below
        · exact ⟨some, here, up, separated p (.head _)⟩
        · exact plain p below

theorem components_plain (cs : List Char) : ∀ p ∈ components cs, IsPlain p := by
  intro p here
  exact foldl_walk_kept (pieces_separated cs) (fun q inside => absurd inside List.not_mem_nil) p
    (List.mem_reverse.mp here)

/-! ## Normal forms -/

theorem normalize_normalize (path : String) : normalize (normalize path) = normalize path := by
  unfold normalize normalizeChars
  rw [String.toList_ofList, components_join (components_plain path.toList)]

end DeviceBridge.Path
