import DeviceBridge.Arguments

/-
  Argument lists as windows. A list is the empty one, or it shows the end of a store of its own that
  it never gets beyond (`Made.window`). To drop arguments is an action of the natural numbers on
  lists: it moves the window, twice is as good as once, and whatever is exhausted becomes the one
  empty list (`dropping_acts`).
-/

namespace DeviceBridge.Arguments

/-- The lists that there are: the empty one, whole stores that hold something, and what is left when
arguments are dropped. -/
inductive Made : Arguments → Prop where
  | empty : Made .empty
  | whole {store : Nat} {values : List Value} (own : store ≠ 0) (some : values ≠ []) :
      Made ⟨store, values, 0⟩
  | drop {a b : Arguments} {n : Int} (made : Made a) (dropped : a.drop n = .ok b) : Made b

theorem Made.ofList (values : List Value) : Made (.ofList values) := by
  unfold Arguments.ofList
  cases values with
  | nil => exact .empty
  | cons v rest => exact .whole Nat.one_ne_zero (List.cons_ne_nil v rest)

variable {a b : Arguments}

/-- What is dropped, by whether there is anything to drop and anything left. -/
theorem drop_eq (a : Arguments) (n : Nat) : a.drop n = .ok (if n = 0 then a
    else if a.count ≤ n then .empty else { a with offset := a.offset + n }) := by
  have whole : ¬(n : Int) < 0 := by omega
  unfold Arguments.drop
  rw [if_neg whole, Int.toNat_natCast]
  simp only [Int.natCast_eq_zero]
  split
  · rfl
  · split <;> rfl

theorem drop_negative {n : Int} (negative : n < 0) :
    a.drop n = .error (.ofCause (.invalidArgument "count cannot be negative")) := if_pos negative

/-- By induction on the drops. -/
theorem Made.window (made : a.Made) :
    a = .empty ∨ a.store ≠ 0 ∧ a.offset < a.stored.length := by
  induction made with
  | empty => exact .inl rfl
  | whole own some => exact .inr ⟨own, List.length_pos_iff.mpr some⟩
  | @drop a b n _ dropped ih =>
    by_cases negative : n < 0
    · rw [drop_negative negative] at dropped
      cases dropped
    · obtain ⟨k, rfl⟩ := Int.eq_ofNat_of_zero_le (Int.not_lt.mp negative)
      rw [drop_eq] at dropped
      cases dropped
      split
      · exact ih
      · split
        · exact .inl rfl
        · next left =>
          have further : a.offset + k < a.stored.length := by
            unfold count at left
            omega
          rcases ih with rfl | ⟨own, -⟩
          · exact absurd further (Nat.not_lt_zero _)
          · exact .inr ⟨own, further⟩

/-- A window ends where its store ends. -/
theorem Made.offset_add_count (made : a.Made) : a.offset + a.count = a.stored.length := by
  unfold count
  rcases made.window with rfl | ⟨-, inside⟩
  · rfl
  · omega

/-- There is one list without arguments. -/
theorem Made.count_eq_zero_iff (made : a.Made) : a.count = 0 ↔ a = .empty := by
  constructor
  · intro none
    rcases made.window with empty | ⟨-, inside⟩
    · exact empty
    · unfold count at none
      omega
  · rintro rfl
    rfl

theorem Made.sameView_empty_iff (made : a.Made) : a.sameView .empty = true ↔ a = .empty := by
  constructor
  · intro same
    rcases made.window with empty | ⟨own, -⟩
    · exact empty
    · exact absurd (eq_of_beq ((Bool.and_eq_true _ _).mp same).1) own
  · rintro rfl
    rfl

theorem get_of_toList {n : Nat} (shows : b.toList = a.toList.drop n) (i : Nat) :
    b.get i = a.get (i + n) := by
  unfold get
  rw [shows, List.getElem?_drop, Nat.add_comm]

/-- Drops in turn are one drop. -/
theorem drop_drop (m n : Nat) (dropped : a.drop m = .ok b) : b.drop n = a.drop (m + n : Nat) := by
  rw [drop_eq] at dropped ⊢
  rw [drop_eq]
  cases dropped
  refine congrArg Except.ok ?_
  by_cases first : m = 0
  · subst first
    rw [if_pos rfl, Nat.zero_add]
  · have further : m + n ≠ 0 := by omega
    rw [if_neg first, if_neg further]
    by_cases exhausted : a.count ≤ m
    · have nothing : Arguments.empty.count ≤ n := Nat.zero_le n
      rw [if_pos exhausted, if_pos nothing, if_pos (Nat.le_trans exhausted (Nat.le_add_right m n)),
        ite_self]
    · rw [if_neg exhausted]
      by_cases second : n = 0
      · subst second
        rw [if_pos rfl, Nat.add_zero, if_neg exhausted]
      · -- the moved window has as many arguments fewer as were dropped
        have fewer : (Arguments.count { a with offset := a.offset + m } ≤ n) =
            (a.count ≤ m + n) := by
          unfold count
          refine propext ?_
          show a.stored.length - (a.offset + m) ≤ n ↔ _
          omega
        rw [if_neg second]
        simp only [fewer, Nat.add_assoc]

/-- What is left of a drop is the empty list, or it shows a later part of the same store. -/
theorem drop_window {n : Nat} (dropped : a.drop n = .ok b) :
    b = .empty ∨ b.store = a.store ∧ b.stored = a.stored ∧ b.offset = a.offset + n := by
  rw [drop_eq] at dropped
  cases dropped
  split
  · next none => exact .inr ⟨rfl, rfl, none ▸ rfl⟩
  · split
    · exact .inl rfl
    · exact .inr ⟨rfl, rfl, rfl⟩

/-- A list never gets beyond its store, and is exhausted just if it is the empty list. To drop
arguments takes as many away as there are, and shifts what is read; what is left is the empty list
if nothing is, and else the same store from further on. To drop none changes nothing, to drop in
turn is to drop the sum at once, and a negative count is refused. -/
theorem dropping_acts (made : a.Made) :
    a.offset + a.count = a.stored.length ∧
    (a.count = 0 ↔ a.sameView .empty = true) ∧
    (∀ i, a.count ≤ i → a.get i = .nil) ∧
    (∀ n : Nat, ∃ b, a.drop n = .ok b ∧ b.count = a.count - n ∧
      (∀ i, b.get i = a.get (i + n)) ∧
      (n < a.count → b.store = a.store ∧ b.stored = a.stored ∧ b.offset = a.offset + n) ∧
      (a.count ≤ n → b = .empty) ∧ ∀ k : Nat, b.drop k = a.drop (n + k : Nat)) ∧
    a.drop 0 = .ok a ∧
    ∀ n : Int, n < 0 →
      a.drop n = .error (.ofCause (.invalidArgument "count cannot be negative")) := by
  refine ⟨made.offset_add_count, ?_, fun i => get_eq_nil, fun n => ?_, rfl, fun n => drop_negative⟩
  · rw [made.count_eq_zero_iff, made.sameView_empty_iff]
  · obtain ⟨b, dropped, shows⟩ := a.drop_natCast n
    have fewer : b.count = a.count - n := by
      rw [← length_toList, ← length_toList, shows, List.length_drop]
    refine ⟨b, dropped, fewer, get_of_toList shows, fun left => ?_, fun beyond => ?_,
      fun k => drop_drop n k dropped⟩
    · refine (drop_window dropped).resolve_left fun empty => ?_
      have none : b.count = 0 := empty ▸ rfl
      omega
    · exact (Made.drop made dropped).count_eq_zero_iff.mp (by omega)

/-- Three arguments, and what is left of them by and by. -/
theorem dropping_acts_three : ∃ b, Made (.ofList [.int 1, .int 2, .int 3]) ∧
    (ofList [.int 1, .int 2, .int 3]).drop 1 = .ok b ∧ b.count = 2 ∧ b.get 1 = .int 3 ∧
    b.drop 1 = (ofList [.int 1, .int 2, .int 3]).drop 2 ∧ b.drop 2 = .ok .empty := by
  have made := Made.ofList [.int 1, .int 2, .int 3]
  obtain ⟨-, -, -, drops, -, -⟩ := dropping_acts made
  obtain ⟨b, dropped, few, shifted, -, -, further⟩ := drops 1
  exact ⟨b, made, dropped, few, shifted 1, further 1, (further 2).trans rfl⟩

end DeviceBridge.Arguments
