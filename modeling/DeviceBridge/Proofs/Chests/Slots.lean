import Mathlib.Algebra.Group.Nat.Defs
import DeviceBridge.Device.Chest

/-
  The slots of a chest and the two ways to number them. A list of stacks by slot number has the
  numbers of the slots that hold something, in increasing order (`keys_itemsFrom`, `taken`), and has
  under each number what is in the slot (`get?_itemsFrom`), as long as numbers do not wrap around.
  After any number of stacks were put into slots, a slot holds the one that came last
  (`slotAt_putAll`).
-/

namespace DeviceBridge.Chest

variable {slots : List (Option ItemStack)} {n i j k : Nat}

/-! ## Numbers -/

/-- A slot number as a key. -/
def number (n : Nat) : Key := .int (Int64.ofNat n)

theorem number_inj (first : i < 2 ^ 63) (second : j < 2 ^ 63) : number i = number j ↔ i = j := by
  constructor
  · intro same
    have words := congrArg Int64.toInt (Key.int.inj same)
    rw [Int64.toInt_ofNat_of_lt first, Int64.toInt_ofNat_of_lt second] at words
    exact Int.ofNat.inj words
  · rintro rfl
    rfl

/-- A positive integer is the number of a slot. -/
theorem number_of_toInt {slot : Int64} (positive : 1 ≤ slot.toInt) :
    number (1 + (slot.toInt.toNat - 1)) = .int slot := by
  have whole : ((1 + (slot.toInt.toNat - 1) : Nat) : Int) = slot.toInt := by omega
  have short : 1 + (slot.toInt.toNat - 1) < 2 ^ 63 := by
    have := slot.toInt_lt
    omega
  refine congrArg Key.int (Int64.toInt_inj.mp ?_)
  rw [Int64.toInt_ofNat_of_lt short, whole]

/-! ## The list of stacks -/

/-- The numbers of the slots that hold something, counted up from some number. -/
def taken (n : Nat) (slots : List (Option ItemStack)) : List Nat :=
  ((slots.zipIdx n).filter (·.1.isSome)).map (·.2)

theorem taken_cons (n : Nat) (held : Option ItemStack) (rest : List (Option ItemStack)) :
    taken n (held :: rest) =
      if held.isSome then n :: taken (n + 1) rest else taken (n + 1) rest := by
  unfold taken
  rw [List.zipIdx_cons, List.filter_cons]
  split <;> rfl

/-- By induction on the slots. -/
theorem keys_itemsFrom (slots : List (Option ItemStack)) :
    ∀ n, Entries.keys (itemsFrom n slots) = (taken n slots).map number := by
  induction slots with
  | nil => exact fun _ => rfl
  | cons held rest ih =>
    intro n
    rw [taken_cons]
    cases held with
    | none => exact ih (n + 1)
    | some stack => exact congrArg (number n :: ·) (ih (n + 1))

theorem taken_sublist : (taken n slots).Sublist (List.range' n slots.length) := by
  have kept := (List.filter_sublist (p := (·.1.isSome)) (l := slots.zipIdx n)).map (·.2)
  rwa [List.zipIdx_map_snd] at kept

theorem taken_increasing : (taken n slots).Pairwise (· < ·) :=
  .sublist taken_sublist List.pairwise_lt_range'

theorem taken_bounds (here : i ∈ taken n slots) : n ≤ i ∧ i < n + slots.length :=
  List.mem_range'_1.mp (taken_sublist.subset here)

/-- By induction on the slots: the stack of a slot stands under its number. -/
theorem get?_itemsFrom (slots : List (Option ItemStack)) : ∀ {n k : Nat}, k < slots.length →
    n + slots.length ≤ 2 ^ 63 →
    Entries.get? (number (n + k)) (itemsFrom n slots) = (slotAt slots k).map ItemStack.toValue := by
  induction slots with
  | nil => exact fun inside => absurd inside (Nat.not_lt_zero _)
  | cons held rest ih =>
    intro n k inside fits
    rw [List.length_cons] at inside fits
    cases k with
    | zero =>
      cases held with
      | some stack => exact if_pos rfl
      | none =>
        -- The numbers that follow are greater, and too small to come round again.
        show Entries.get? (number n) (itemsFrom (n + 1) rest) = none
        refine Option.not_isSome_iff_eq_none.mp fun there => ?_
        rw [← Entries.mem_keys_iff, keys_itemsFrom] at there
        obtain ⟨i, later, same⟩ := List.mem_map.mp there
        have bounds := taken_bounds later
        rw [number_inj (by omega) (by omega)] at same
        omega
    | succ k =>
      have next := ih (n := n + 1) (k := k) (by omega) (by omega)
      have further : n + 1 + k = n + (k + 1) := by omega
      rw [further] at next
      cases held with
      | none => exact next
      | some stack =>
        have differs : number n ≠ number (n + (k + 1)) := by
          rw [Ne, number_inj (by omega) (by omega)]
          omega
        exact (if_neg differs).trans next

theorem isEmpty_iff (slots : List (Option ItemStack)) :
    ∀ n, isEmpty slots = true ↔ itemsFrom n slots = [] := by
  induction slots with
  | nil => exact fun _ => iff_of_true rfl rfl
  | cons held rest ih =>
    intro n
    cases held with
    | none => exact ih (n + 1)
    | some stack => exact iff_of_false nofun nofun

/-! ## Stacks put in -/

/-- Put stacks into slots, one after the other. -/
def putAll (slots : List (Option ItemStack)) (puts : List (Nat × Option ItemStack)) :
    List (Option ItemStack) :=
  puts.foldl (fun slots p => (setSlot slots p.1 p.2).2) slots

/-- The stack that was put into a slot last, if one was and not nothing. -/
def lastPut (puts : List (Nat × Option ItemStack)) (index : Nat) : Option ItemStack :=
  ((puts.filter (·.1 = index)).getLast?.map (·.2)).join

theorem putAll_concat (slots : List (Option ItemStack)) (puts : List (Nat × Option ItemStack))
    (p : Nat × Option ItemStack) :
    putAll slots (puts ++ [p]) = (putAll slots puts).set p.1 p.2 :=
  List.foldl_append

theorem length_putAll (slots : List (Option ItemStack)) (puts : List (Nat × Option ItemStack)) :
    (putAll slots puts).length = slots.length := by
  induction puts generalizing slots with
  | nil => rfl
  | cons p rest ih => exact (ih _).trans List.length_set

theorem lastPut_concat (puts : List (Nat × Option ItemStack)) (p : Nat × Option ItemStack) :
    lastPut (puts ++ [p]) k = if p.1 = k then p.2 else lastPut puts k := by
  unfold lastPut
  rw [List.filter_append]
  by_cases here : p.1 = k
  · have kept : [p].filter (·.1 = k) = [p] := List.filter_cons_of_pos (decide_eq_true here)
    rw [kept, if_pos here, List.getLast?_concat]
    rfl
  · have dropped : [p].filter (·.1 = k) = [] :=
      List.filter_cons_of_neg fun same => here (of_decide_eq_true same)
    rw [dropped, List.append_nil, if_neg here]

/-- By induction on what is put in, from the end: a slot of a chest that was empty at first holds
what was put into it last. -/
theorem slotAt_putAll {size : Nat} (inside : k < size) (puts : List (Nat × Option ItemStack)) :
    slotAt (putAll (List.replicate size none) puts) k = lastPut puts k := by
  rw [← List.reverse_reverse puts]
  induction puts.reverse with
  | nil =>
    show slotAt (List.replicate size none) k = none
    unfold slotAt
    rw [List.getElem?_replicate, if_pos inside]
    rfl
  | cons p before ih =>
    have there : k < (putAll (List.replicate size none) before.reverse).length := by
      rwa [length_putAll, List.length_replicate]
    rw [List.reverse_cons, putAll_concat, lastPut_concat, ← ih]
    unfold slotAt
    rw [List.getElem?_set]
    by_cases here : p.1 = k
    · subst here
      rw [if_pos rfl, if_pos there, if_pos rfl]
      rfl
    · rw [if_neg here, if_neg here]

end DeviceBridge.Chest
