import DeviceBridge.Proofs.Files.Paths

/-
  Paths as trails. A trail is the list of the components that a path leads through, and a path in
  normal form is its trail, joined. So what is asked of the texts of such paths can be asked of
  their trails: a path covers those whose trails its own begins (`covers_ofTrail`), what is left of
  a trail is the relative path (`relative_ofTrail`), and parents, names and ancestors are what they
  are for lists.
-/

namespace DeviceBridge.Path

abbrev Trail := List (List Char)

def Plain (t : Trail) : Prop := ∀ p ∈ t, IsPlain p

def trail (path : String) : Trail := components path.toList

def ofTrail (t : Trail) : String := String.ofList (join t)

variable {t u : Trail} {p : List Char}

theorem plain_append : Plain (t ++ u) ↔ Plain t ∧ Plain u := List.forall_mem_append

theorem plain_single : Plain [p] ↔ IsPlain p := List.forall_mem_singleton

theorem plain_nil : Plain [] := fun _ here => absurd here List.not_mem_nil

theorem trail_plain (path : String) : Plain (trail path) := components_plain path.toList

/-! ## Joining -/

theorem join_cons (p : List Char) (more : t ≠ []) : join (p :: t) = p ++ '/' :: join t := by
  cases t with
  | nil => exact absurd rfl more
  | cons => rfl

theorem join_append (first : t ≠ []) (second : u ≠ []) :
    join (t ++ u) = join t ++ '/' :: join u := by
  induction t with
  | nil => exact absurd rfl first
  | cons p rest ih =>
    cases rest with
    | nil => exact join_cons p second
    | cons q qs =>
      show p ++ '/' :: join ((q :: qs) ++ u) = (p ++ '/' :: join (q :: qs)) ++ '/' :: join u
      rw [ih nofun, List.append_assoc, List.cons_append]

/-- What is joined does not begin with a slash. -/
theorem join_dropWhile (plain : Plain t) : (join t).dropWhile (· == '/') = join t := by
  cases t with
  | nil => rfl
  | cons p rest =>
    obtain ⟨some, -, -, separated⟩ := plain p (.head _)
    obtain ⟨c, cs, rfl⟩ := List.exists_cons_of_ne_nil some
    have first : ∃ more, join ((c :: cs) :: rest) = c :: more := by
      cases rest with
      | nil => exact ⟨cs, rfl⟩
      | cons => exact ⟨_, rfl⟩
    obtain ⟨more, begins⟩ := first
    have apart := separated c (.head _)
    have differs : (c == '/') = false := (Bool.or_eq_false_iff.mp apart).1
    rw [begins, List.dropWhile_cons, differs]
    rfl

theorem join_eq_nil (plain : Plain t) : join t = [] ↔ t = [] := by
  constructor
  · intro nothing
    cases t with
    | nil => rfl
    | cons p rest =>
      have some := (plain p (.head _)).1
      cases rest with
      | nil => exact absurd nothing some
      | cons =>
        have split := List.append_eq_nil_iff.mp nothing
        exact absurd split.1 some
  · rintro rfl
    rfl

/-! ## Trails and texts -/

theorem trail_ofTrail (plain : Plain t) : trail (ofTrail t) = t := by
  unfold trail ofTrail
  rw [String.toList_ofList, components_join plain]

theorem normalize_ofTrail (plain : Plain t) : normalize (ofTrail t) = ofTrail t := by
  have same := trail_ofTrail plain
  show ofTrail (trail (ofTrail t)) = ofTrail t
  rw [same]

/-- A path in normal form is its trail, joined. -/
theorem ofTrail_trail {path : String} (normal : normalize path = path) :
    ofTrail (trail path) = path := normal

/-- A path in normal form is the root, or has a last component. -/
theorem root_or_below {path : String} (normal : normalize path = path) :
    path = "" ∨ ∃ t p, Plain (t ++ [p]) ∧ path = ofTrail (t ++ [p]) := by
  have plain := trail_plain path
  rw [← ofTrail_trail normal]
  rcases List.eq_nil_or_concat (trail path) with root | ⟨t, p, below⟩
  · rw [root]
    exact .inl rfl
  · rw [List.concat_eq_append] at below
    rw [below] at plain ⊢
    exact .inr ⟨t, p, plain, rfl⟩

theorem ofTrail_inj (first : Plain t) (second : Plain u) : ofTrail t = ofTrail u ↔ t = u := by
  constructor
  · intro same
    rw [← trail_ofTrail first, ← trail_ofTrail second, same]
  · rintro rfl
    rfl

theorem ofTrail_eq_empty (plain : Plain t) : ofTrail t = "" ↔ t = [] := by
  unfold ofTrail
  rw [String.ofList_eq_empty_iff, join_eq_nil plain]

/-! ## One path inside another -/

theorem pieces_append_separator (cs : List Char) {c : Char} (separates : isSeparator c = true)
    (ds : List Char) : pieces (cs ++ c :: ds) = pieces cs ++ pieces ds := by
  induction cs with
  | nil =>
    rw [List.nil_append, pieces_cons, separates]
    rfl
  | cons d rest ih =>
    rw [List.cons_append, pieces_cons, pieces_cons, ih]
    split
    · rfl
    · obtain ⟨q, qs, split⟩ := List.exists_cons_of_ne_nil (pieces_ne_nil rest)
      rw [split]
      rfl

/-- A text that goes on behind the joined components with a slash leads through them first. -/
theorem prefix_of_join (first : Plain t) (second : Plain u) (some : t ≠ []) {rest : List Char}
    (goesOn : join u = join t ++ '/' :: rest) : t <+: u := by
  have taken (plain : Plain t) (some : t ≠ []) : pieces (join t) = t := by
    obtain ⟨p, ps, rfl⟩ := List.exists_cons_of_ne_nil some
    exact pieces_join fun q here => (plain q here).2.2.2
  have more : u ≠ [] := by
    rintro rfl
    exact absurd goesOn.symm (by simp [join])
  have apart := congrArg pieces goesOn
  rw [pieces_append_separator _ rfl, taken first some] at apart
  obtain ⟨p, ps, rfl⟩ := List.exists_cons_of_ne_nil more
  rw [pieces_join fun q here => (second q here).2.2.2] at apart
  exact ⟨pieces rest, apart.symm⟩

theorem covers_ofTrail (first : Plain t) (second : Plain u) :
    covers (ofTrail t) (ofTrail u) = true ↔ t <+: u := by
  unfold covers
  rw [Bool.or_eq_true, Bool.or_eq_true, String.isEmpty_iff, ofTrail_eq_empty first, beq_iff_eq,
    ofTrail_inj second first, List.isPrefixOf_iff_prefix]
  unfold ofTrail
  rw [String.toList_ofList, String.toList_ofList]
  constructor
  · rintro ((rfl | rfl) | ⟨rest, goesOn⟩)
    · exact List.nil_prefix
    · exact List.prefix_rfl
    · by_cases root : t = []
      · rw [root]
        exact List.nil_prefix
      · have further : join u = join t ++ '/' :: rest := by
          rw [← goesOn, List.append_assoc]
          rfl
        exact prefix_of_join first second root further
  · rintro ⟨more, rfl⟩
    by_cases root : t = []
    · exact .inl (.inl root)
    · by_cases whole : more = []
      · rw [whole, List.append_nil]
        exact .inl (.inr rfl)
      · refine .inr ⟨join more, ?_⟩
        rw [join_append root whole, List.append_assoc]
        rfl

theorem relative_ofTrail (plain : Plain (t ++ u)) :
    relative (ofTrail t) (ofTrail (t ++ u)) = ofTrail u := by
  obtain ⟨-, below⟩ := plain_append.mp plain
  unfold relative ofTrail
  rw [String.toList_ofList, String.toList_ofList]
  refine congrArg String.ofList ?_
  by_cases root : t = []
  · rw [root]
    exact join_dropWhile below
  · by_cases whole : u = []
    · rw [whole, List.append_nil, List.drop_length]
      rfl
    · rw [join_append root whole, List.drop_left]
      exact join_dropWhile below

/-- Seen from a location above it, a path is what is left of its trail. -/
theorem relative_normalize {location path : String} (normal : normalize location = location)
    (below : trail path = trail location ++ u) :
    relative location (normalize path) = ofTrail u := by
  have plain := trail_plain path
  have there : normalize path = ofTrail (trail location ++ u) := congrArg ofTrail below
  rw [below] at plain
  have seen := relative_ofTrail plain
  rw [ofTrail_trail normal, ← there] at seen
  exact seen

/-- What a text gains on the way down. -/
theorem ofTrail_grows (plain : Plain (t ++ u)) :
    ∃ more, ofTrail (t ++ u) = ofTrail t ++ more ∧ (more = "" → u = []) := by
  obtain ⟨-, below⟩ := plain_append.mp plain
  by_cases root : t = []
  · rw [root]
    exact ⟨ofTrail u, rfl, (ofTrail_eq_empty below).mp⟩
  · by_cases whole : u = []
    · rw [whole, List.append_nil]
      exact ⟨"", String.append_empty.symm, fun _ => rfl⟩
    · refine ⟨String.ofList ('/' :: join u), ?_, fun nothing => ?_⟩
      · unfold ofTrail
        rw [join_append root whole, String.ofList_append]
      · rw [String.ofList_eq_empty_iff] at nothing
        cases nothing

/-- Of two paths on the way to a third the upper one is the shorter text. -/
theorem size_le_iff {path : Trail} (plain : Plain path) (first : t <+: path)
    (second : u <+: path) :
    (ofTrail t).utf8ByteSize ≤ (ofTrail u).utf8ByteSize ↔ t <+: u := by
  constructor
  · intro small
    rcases List.prefix_or_prefix_of_prefix first second with shorter | ⟨below, rfl⟩
    · exact shorter
    · obtain ⟨more, longer, nothing⟩ := ofTrail_grows fun p here => plain p (first.subset here)
      rw [longer, String.utf8ByteSize_append] at small
      have empty : more = "" := String.utf8ByteSize_eq_zero_iff.mp (by omega)
      refine ⟨[], ?_⟩
      rw [nothing empty, List.append_nil, List.append_nil]
  · rintro ⟨below, rfl⟩
    obtain ⟨more, longer, -⟩ := ofTrail_grows fun p here => plain p (second.subset here)
    rw [longer, String.utf8ByteSize_append]
    exact Nat.le_add_right _ _

/-! ## Going on from a path -/

/-- The trail of a path that is followed from the end of a trail. -/
def follow (t : Trail) (path : String) : Trail :=
  ((pieces path.toList).foldl walk t.reverse).reverse

/-- What goes on behind a path has only to do with where that path leads. -/
theorem trail_append (a b : String) : trail (a ++ "/" ++ b) = follow (trail a) b := by
  have text : (a ++ "/" ++ b).toList = a.toList ++ '/' :: b.toList := by
    rw [String.toList_append, String.toList_append, List.append_assoc]
    rfl
  unfold follow trail components
  rw [text, pieces_append_separator _ rfl, List.foldl_append, List.reverse_reverse]

/-- To follow a name is one component more. -/
theorem follow_plain {name : String} (plain : IsPlain name.toList) (t : Trail) :
    follow t name = t ++ [name.toList] := by
  obtain ⟨some, here, up, separated⟩ := plain
  have down : walk t.reverse name.toList = name.toList :: t.reverse := by
    unfold walk
    rw [if_neg (not_or.mpr ⟨some, here⟩), if_neg up]
  unfold follow
  rw [pieces_plain separated]
  show (walk t.reverse name.toList).reverse = _
  rw [down, List.reverse_cons, List.reverse_reverse]

/-- A path text with a name behind it leads one component further. -/
theorem trail_child (path : String) {name : String} (plain : IsPlain name.toList) :
    trail (path ++ "/" ++ name) = trail path ++ [name.toList] := by
  rw [trail_append, follow_plain plain]

/-! ## Parents, names and ancestors -/

theorem noSlash (plain : IsPlain p) : ∀ c ∈ p, (c != '/') = true := by
  intro c here
  have apart := (Bool.or_eq_false_iff.mp (plain.2.2.2 c here)).1
  exact bne_iff_ne.mpr (beq_eq_false_iff_ne.mp apart)

theorem noSlash_reverse (plain : IsPlain p) : ∀ c ∈ p.reverse, (c != '/') = true :=
  fun c here => noSlash plain c (List.mem_reverse.mp here)

theorem parentChars_join (last : IsPlain p) : parentChars (join (t ++ [p])) = join t := by
  have slashes := noSlash_reverse last
  unfold parentChars
  by_cases root : t = []
  · rw [root]
    show ((p.reverse.dropWhile (· != '/')).drop 1).reverse = []
    have whole : (p.reverse ++ []).dropWhile (· != '/') = [] :=
      List.dropWhile_append_of_pos slashes
    rw [List.append_nil] at whole
    rw [whole]
    rfl
  · rw [join_append root (List.cons_ne_nil p []), List.reverse_append]
    show (((('/' :: p).reverse ++ _).dropWhile _).drop 1).reverse = _
    rw [List.reverse_cons, List.append_assoc, List.dropWhile_append_of_pos slashes]
    show (join t).reverse.reverse = _
    rw [List.reverse_reverse]

theorem nameChars_join (last : IsPlain p) : nameChars (join (t ++ [p])) = p := by
  have slashes := noSlash_reverse last
  unfold nameChars
  by_cases root : t = []
  · rw [root]
    show (p.reverse.takeWhile (· != '/')).reverse = p
    have whole : (p.reverse ++ []).takeWhile (· != '/') = p.reverse ++ [] :=
      List.takeWhile_append_of_pos slashes
    rw [List.append_nil] at whole
    rw [whole, List.reverse_reverse]
  · rw [join_append root (List.cons_ne_nil p []), List.reverse_append]
    show ((('/' :: p).reverse ++ _).takeWhile _).reverse = _
    rw [List.reverse_cons, List.append_assoc, List.takeWhile_append_of_pos slashes]
    show (p.reverse ++ []).reverse = p
    rw [List.append_nil, List.reverse_reverse]

theorem parent_ofTrail (last : IsPlain p) : parent (ofTrail (t ++ [p])) = ofTrail t := by
  unfold parent ofTrail
  rw [String.toList_ofList, parentChars_join last]

theorem name_ofTrail (last : IsPlain p) : name (ofTrail (t ++ [p])) = String.ofList p := by
  unfold name ofTrail
  rw [String.toList_ofList, nameChars_join last]

theorem parts_slash (cs : List Char) : parts ('/' :: cs) = parts cs := if_pos rfl

theorem parts_further {c d : Char} {ds : List Char} {ps : List (List Char)} (first : c ≠ '/')
    (second : d ≠ '/') (rest : parts (d :: ds) = p :: ps) :
    parts (c :: d :: ds) = (c :: p) :: ps := by
  unfold parts
  rw [if_neg first]
  simp only
  rw [if_neg second, rest]

theorem parts_last {c : Char} (first : c ≠ '/') : parts [c] = [[c]] := if_neg first

theorem parts_end {c : Char} (first : c ≠ '/') (more : List Char) :
    parts (c :: '/' :: more) = [c] :: parts more := by
  rw [← parts_slash more]
  exact if_neg first

/-- By induction on the characters of the first part. -/
theorem parts_append (some : p ≠ []) (slashes : ∀ c ∈ p, (c != '/') = true) (more : List Char) :
    parts (p ++ '/' :: more) = p :: parts more := by
  induction p with
  | nil => exact absurd rfl some
  | cons c cs ih =>
    have first : c ≠ '/' := bne_iff_ne.mp (slashes c (.head _))
    cases cs with
    | nil => exact parts_end first more
    | cons d ds =>
      have rest := ih nofun fun e here => slashes e (.tail _ here)
      exact parts_further first (bne_iff_ne.mp (slashes d (.tail _ (.head _)))) rest

theorem parts_single (some : p ≠ []) (slashes : ∀ c ∈ p, (c != '/') = true) : parts p = [p] := by
  induction p with
  | nil => exact absurd rfl some
  | cons c cs ih =>
    have first : c ≠ '/' := bne_iff_ne.mp (slashes c (.head _))
    cases cs with
    | nil => exact parts_last first
    | cons d ds =>
      have rest := ih nofun fun e here => slashes e (.tail _ here)
      exact parts_further first (bne_iff_ne.mp (slashes d (.tail _ (.head _)))) rest

theorem parts_join (plain : Plain t) : parts (join t) = t := by
  induction t with
  | nil => rfl
  | cons p rest ih =>
    have first := plain p (.head _)
    cases rest with
    | nil => exact parts_single first.1 (noSlash first)
    | cons q qs =>
      show parts (p ++ '/' :: join (q :: qs)) = _
      rw [parts_append first.1 (noSlash first), ih fun r here => plain r (.tail _ here)]

theorem mem_prefixes {before t : Trail} {d : List Char} (here : d ∈ prefixes before t) :
    ∃ further, further <+: t ∧ d = join (before ++ further) := by
  induction t generalizing before with
  | nil => exact absurd here List.not_mem_nil
  | cons q rest ih =>
    rcases List.mem_cons.mp here with rfl | later
    · exact ⟨[q], ⟨rest, rfl⟩, rfl⟩
    · obtain ⟨further, ⟨left, whole⟩, rfl⟩ := ih later
      refine ⟨q :: further, ⟨left, congrArg (q :: ·) whole⟩, ?_⟩
      rw [List.append_assoc]
      rfl

/-- The ancestors of a path are the texts of the trails on the way to its parent. -/
theorem ancestors_ofTrail (plain : Plain (t ++ [p])) :
    ancestors (ofTrail (t ++ [p])) = (prefixes [] t).map String.ofList := by
  obtain ⟨above, last⟩ := plain_append.mp plain
  unfold ancestors ofTrail
  rw [String.toList_ofList, parentChars_join (plain_single.mp last), parts_join above]

end DeviceBridge.Path
