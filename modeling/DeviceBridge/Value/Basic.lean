import DeviceBridge.Entries

/-
  Values that cross between scripts and the host: nil, booleans, 64-bit integers, floating-point
  numbers, strings and tables. A table keeps its entries in the order in which their keys first came
  (`Value.ofEntries`); a list is a table with the keys `1 … n` (`Value.ofList`).
-/

namespace DeviceBridge

/-- A table key. -/
inductive Key where
  | bool (b : Bool)
  | int (i : Int64)
  | string (s : String)
deriving Repr, DecidableEq

inductive Value where
  | nil
  | bool (b : Bool)
  | int (i : Int64)
  | float (f : Float)
  | string (s : String)
  | table (entries : List (Key × Value))
deriving Inhabited

/-- What scripts see as the type of a value. Integers and floating-point numbers share one. -/
inductive ValueType where
  | nil
  | boolean
  | number
  | string
  | table
deriving Repr, DecidableEq

namespace ValueType

def name : ValueType → String
  | nil => "nil"
  | boolean => "boolean"
  | number => "number"
  | string => "string"
  | table => "table"

end ValueType

/-! ## Numbers -/

/-- The integer that an integral number stands for, if it is one of 64 bits. -/
def integral? (f : Float) : Option Int64 :=
  let limit : Float := 9223372036854775808.0
  if f.floor == f && -limit ≤ f && f < limit then some f.toInt64 else none

namespace Value

/-! ## Construction -/

def ofEntries (entries : List (Key × Value)) : Value :=
  .table (Entries.putAll [] entries)

def ofListFrom (n : Nat) : List Value → List (Key × Value)
  | [] => []
  | v :: vs => (.int (Int64.ofNat n), v) :: ofListFrom (n + 1) vs

def ofList (values : List Value) : Value := .table (ofListFrom 1 values)

def ofNat (n : Nat) : Value := .int (Int64.ofNat n)

def ofOption : Option Value → Value
  | none => .nil
  | some v => v

/-! ## Queries -/

def type : Value → ValueType
  | nil => .nil
  | bool _ => .boolean
  | int _ => .number
  | float _ => .number
  | string _ => .string
  | table _ => .table

def typeName (v : Value) : String := v.type.name

def isNil : Value → Bool
  | nil => true
  | _ => false

def bool? : Value → Option Bool
  | bool b => some b
  | _ => none

/-- Floating-point numbers count as integers when they are integral and fit. -/
def int? : Value → Option Int64
  | int i => some i
  | float f => integral? f
  | _ => none

def float? : Value → Option Float
  | int i => some i.toFloat
  | float f => some f
  | _ => none

def string? : Value → Option String
  | string s => some s
  | _ => none

def table? : Value → Option (List (Key × Value))
  | table t => some t
  | _ => none

/-- The key that a value stands for. Nil, tables and numbers that are not integral are no keys. -/
def key? : Value → Option Key
  | bool b => some (.bool b)
  | int i => some (.int i)
  | float f => (integral? f).map .int
  | string s => some (.string s)
  | _ => none

def field (v : Value) (key : Key) : Option Value := v.table?.bind (Entries.get? key)

/-- The first value, if it is a string: the name of an event, or the filter of a wait. -/
def headString? : List Value → Option String
  | string s :: _ => some s
  | _ => none

/-! ## Equality -/

mutual

/-- Whether two values are equal. Numbers compare as their kind does, so `1` and `1.0` differ and
no NaN equals another; tables compare without regard to order. -/
def same : Value → Value → Bool
  | nil, nil => true
  | bool a, bool b => a == b
  | int a, int b => a == b
  | float a, float b => a == b
  | string a, string b => a == b
  | table es, table fs => es.length == fs.length && sameEntries es fs
  | _, _ => false

/-- Each entry of the first table has an equal one in the second. -/
def sameEntries : List (Key × Value) → List (Key × Value) → Bool
  | [], _ => true
  | (k, v) :: es, fs =>
    (match Entries.get? k fs with
      | some w => same v w
      | none => false) && sameEntries es fs

end

end Value

end DeviceBridge
