import DeviceBridge.Value.Text

/-
  RON documents, the notation of configuration and session files, and their texts: on one line
  (`Ron.compact`), or one field to a line (`Ron.pretty`). Parentheses hold either items or named
  fields, and a word may stand in front of them. `Ron.depth` says how deep a document nests.
-/

namespace DeviceBridge

/-- The types of whole numbers, which a number may name in its suffix. -/
inductive WholeType where
  | i8
  | i16
  | i32
  | i64
  | u8
  | u16
  | u32
  | u64
deriving Repr, DecidableEq

namespace WholeType

def all : List WholeType := [i8, i16, i32, i64, u8, u16, u32, u64]

def name : WholeType → String
  | i8 => "i8"
  | i16 => "i16"
  | i32 => "i32"
  | i64 => "i64"
  | u8 => "u8"
  | u16 => "u16"
  | u32 => "u32"
  | u64 => "u64"

/-- The least and the greatest number of a type. -/
def bounds : WholeType → Int × Int
  | i8 => (Int8.minValue.toInt, Int8.maxValue.toInt)
  | i16 => (Int16.minValue.toInt, Int16.maxValue.toInt)
  | i32 => (Int32.minValue.toInt, Int32.maxValue.toInt)
  | i64 => (Int64.minValue.toInt, Int64.maxValue.toInt)
  | u8 => (0, UInt8.size - 1)
  | u16 => (0, UInt16.size - 1)
  | u32 => (0, UInt32.size - 1)
  | u64 => (0, UInt64.size - 1)

def holds (t : WholeType) (i : Int) : Bool := t.bounds.1 ≤ i && i ≤ t.bounds.2

end WholeType

inductive Ron where
  | bool (b : Bool)
  /-- A whole number, with the type that it names. -/
  | int (i : Int) (type : Option WholeType)
  | float (f : Float)
  /-- NaN behind a minus sign. Only the text shows the sign. -/
  | minusNaN
  | char (c : Char)
  | string (s : String)
  | bytes (b : List UInt8)
  /-- From one number to another, each of which may be left open. -/
  | range (first last : Option Ron)
  | absent
  | present (r : Ron)
  /-- Parentheses with nothing between them. -/
  | unit
  | list (items : List Ron)
  | map (entries : List (Ron × Ron))
  /-- A word alone. -/
  | word (name : String)
  /-- Items in parentheses. -/
  | group (name : Option String) (items : List Ron)
  /-- Named fields in parentheses. -/
  | record (name : Option String) (fields : List (String × Ron))
deriving Inhabited

namespace Ron

/-! ## Texts -/

/-- Strings are quoted as in diagnostics, and single quotes are escaped too. -/
def escape (c : Char) : String := if c = '\'' then "\\'" else Text.escape c

def quoted (s : String) : String := "\"" ++ String.join (s.toList.map escape) ++ "\""

/-- A byte in two hexadecimal digits. -/
def byteText (b : UInt8) : String :=
  "\\x" ++ String.ofList [Nat.digitChar (b.toNat / 16), Nat.digitChar (b.toNat % 16)]

def parenthesized (name : Option String) (items : List String) : String :=
  name.getD "" ++ "(" ++ ",".intercalate items ++ ")"

mutual

def compact : Ron → String
  | bool b => boolText b
  | int i type => toString i ++ ((type.map WholeType.name).getD "")
  | float f => diagnosticNumber.write f
  | minusNaN => "-NaN"
  | char c => "'" ++ escape c ++ "'"
  | string s => quoted s
  | bytes b => "b\"" ++ String.join (b.map byteText) ++ "\""
  | range first last => compactBound first ++ ".." ++ compactBound last
  | absent => "None"
  | present r => "Some(" ++ compact r ++ ")"
  | unit => "()"
  | list items => "[" ++ ",".intercalate (compactItems items) ++ "]"
  | map entries => "\x7b" ++ ",".intercalate (compactEntries entries) ++ "\x7d"
  | word name => name
  | group name items => parenthesized name (compactItems items)
  | record name fields => parenthesized name (compactFields fields)

def compactBound : Option Ron → String
  | none => ""
  | some r => compact r

def compactItems : List Ron → List String
  | [] => []
  | r :: rs => compact r :: compactItems rs

def compactEntries : List (Ron × Ron) → List String
  | [] => []
  | (k, v) :: rest => (compact k ++ ":" ++ compact v) :: compactEntries rest

def compactFields : List (String × Ron) → List String
  | [] => []
  | (name, r) :: rest => (name ++ ":" ++ compact r) :: compactFields rest

end

/-- A record with each field on a line of its own; other documents on one line. -/
def pretty : Ron → String
  | record name fields =>
    let lines := fields.map fun (field, r) => "    " ++ field ++ ": " ++ compact r ++ ",\n"
    name.getD "" ++ "(\n" ++ String.join lines ++ ")"
  | other => compact other

/-! ## Depth -/

mutual

/-- Brackets are one level, and what stands in them is one more; an option is one level only. -/
def depth : Ron → Nat
  | present r => depth r + 1
  | list items => depthItems items + 1
  | map entries => depthEntries entries + 1
  | group _ items => depthItems items + 1
  | record _ fields => depthFields fields + 1
  | _ => 0

def depthItems : List Ron → Nat
  | [] => 0
  | r :: rs => max (depth r + 1) (depthItems rs)

def depthEntries : List (Ron × Ron) → Nat
  | [] => 0
  | (k, v) :: rest => max (max (depth k) (depth v) + 1) (depthEntries rest)

def depthFields : List (String × Ron) → Nat
  | [] => 0
  | (_, r) :: rest => max (depth r + 1) (depthFields rest)

end

/-- Whether parentheses have a word in front of them. -/
def isNamed : Ron → Bool
  | group name _ => name.isSome
  | record name _ => name.isSome
  | _ => false

end Ron

end DeviceBridge
