import DeviceBridge.Choice
import DeviceBridge.Failure
import DeviceBridge.Value.Text

/-
  Argument lists of host calls. A list is a window onto stored values: dropping a prefix moves the
  window and shares the store (`Arguments.drop`), and every exhausted window is the one empty list.
  Reads outside the window give nil. Strict accessors refuse nil; the optional ones read it as
  absent and are otherwise as strict.
-/

namespace DeviceBridge

/-- A window onto stored values. `store` tells apart lists that were made separately; store 0 is
that of the empty list. -/
structure Arguments where
  store : Nat
  stored : List Value
  offset : Nat

namespace Arguments

def empty : Arguments := ⟨0, [], 0⟩

/-- A list of values. All such lists bear store 1, the empty one aside: who compares lists that were
made separately gives each a store of its own. -/
def ofList (values : List Value) : Arguments := if values.isEmpty then empty else ⟨1, values, 0⟩

def count (a : Arguments) : Nat := a.stored.length - a.offset

def isEmpty (a : Arguments) : Bool := a.count == 0

def toList (a : Arguments) : List Value := a.stored.drop a.offset

/-- The argument at an index counted from 0, nil beyond the end. -/
def get (a : Arguments) (index : Nat) : Value := (a.toList[index]?).getD .nil

/-- The list without its first `n` arguments. -/
def drop (a : Arguments) (n : Int) : Except Failure Arguments :=
  if n < 0 then .error (.ofCause (.invalidArgument "count cannot be negative"))
  else if n = 0 then .ok a
  else if a.count ≤ n.toNat then .ok empty
  else .ok { a with offset := a.offset + n.toNat }

/-- Whether two lists are the same window onto the same store. -/
def sameView (a b : Arguments) : Bool := a.store == b.store && a.offset == b.offset

/-- Whether two lists show equal values. -/
def same (a b : Arguments) : Bool :=
  a.count == b.count && (a.toList.zip b.toList).all fun (v, w) => v.same w

theorem length_toList (a : Arguments) : a.toList.length = a.count := by
  simp [toList, count]

theorem get_eq_nil {a : Arguments} {index : Nat} (h : a.count ≤ index) : a.get index = .nil := by
  have : a.toList[index]? = none := List.getElem?_eq_none (by rw [length_toList]; exact h)
  simp [get, this]

theorem toList_drop {a b : Arguments} {n : Int} (h : a.drop n = .ok b) :
    b.toList = a.toList.drop n.toNat := by
  simp only [drop] at h
  split at h
  · simp at h
  · split at h
    · rename_i hz
      cases h
      simp [hz]
    · split at h
      · rename_i hc
        cases h
        rw [List.drop_of_length_le (by rw [length_toList]; exact hc)]
        rfl
      · cases h
        simp [toList, List.drop_drop]

/-- To drop as many arguments as are not negative never fails. -/
theorem drop_natCast (args : Arguments) (k : Nat) :
    ∃ rest, args.drop k = .ok rest ∧ rest.toList = args.toList.drop k := by
  have dropped : ∃ rest, args.drop k = .ok rest := by
    unfold Arguments.drop
    have whole : ¬(k : Int) < 0 := by omega
    rw [if_neg whole]
    split
    · exact ⟨args, rfl⟩
    · split
      · exact ⟨.empty, rfl⟩
      · exact ⟨_, rfl⟩
  obtain ⟨rest, dropped⟩ := dropped
  exact ⟨rest, dropped, toList_drop dropped⟩

/-! ## Strict accessors -/

def string (a : Arguments) (index : Nat) : Except Failure String :=
  match (a.get index).string? with
  | some s => .ok s
  | none => .error (.argumentType index "string" (a.get index).typeName)

def number (a : Arguments) (index : Nat) : Except Failure Float :=
  match (a.get index).float? with
  | some f => .ok f
  | none => .error (.argumentType index "number" (a.get index).typeName)

def finiteNumber (a : Arguments) (index : Nat) : Except Failure Float :=
  match a.number index with
  | .ok f =>
    if f.isFinite then .ok f else .error (.badArgument index "number expected, got non-finite")
  | .error e => .error e

def int (a : Arguments) (index : Nat) : Except Failure Int64 :=
  if (a.get index).type = .number then
    match (a.get index).int? with
    | some i => .ok i
    | none => .error (.badArgument index "number has no integer representation")
  else .error (.argumentType index "number" (a.get index).typeName)

def bool (a : Arguments) (index : Nat) : Except Failure Bool :=
  match (a.get index).bool? with
  | some b => .ok b
  | none => .error (.argumentType index "boolean" (a.get index).typeName)

def table (a : Arguments) (index : Nat) : Except Failure (List (Key × Value)) :=
  match (a.get index).table? with
  | some t => .ok t
  | none => .error (.argumentType index "table" (a.get index).typeName)

/-- A constant of a choice, given by name. -/
def constant (a : Arguments) (index : Nat) (choice : Choice) : Except Failure Nat :=
  match a.string index with
  | .ok name =>
    match choice.ordinal? name with
    | some n => .ok n
    | none => .error (.badArgument index ("unknown option " ++ name))
  | .error e => .error e

/-! ## Optional accessors -/

/-- Nil or nothing at the index is absent; anything else is read strictly. -/
def optional {α : Type} (a : Arguments) (index : Nat) (read : Except Failure α) :
    Except Failure (Option α) :=
  if (a.get index).isNil then .ok none else read.map some

def string? (a : Arguments) (index : Nat) : Except Failure (Option String) :=
  a.optional index (a.string index)

def number? (a : Arguments) (index : Nat) : Except Failure (Option Float) :=
  a.optional index (a.number index)

def int? (a : Arguments) (index : Nat) : Except Failure (Option Int64) :=
  a.optional index (a.int index)

def bool? (a : Arguments) (index : Nat) : Except Failure (Option Bool) :=
  a.optional index (a.bool index)

def table? (a : Arguments) (index : Nat) : Except Failure (Option (List (Key × Value))) :=
  a.optional index (a.table index)

def constant? (a : Arguments) (index : Nat) (choice : Choice) : Except Failure (Option Nat) :=
  a.optional index (a.constant index choice)

end Arguments

end DeviceBridge
