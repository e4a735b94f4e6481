import DeviceBridge.Decimal.Style
import DeviceBridge.Text.Quoted

/-
  JSON documents and their texts: on one line (`Json.compact`), or indented (`Json.pretty`). An
  object keeps its members in the order given, and may hold a name twice; `Json.sorted` orders the
  members by name and keeps the last of each.
-/

namespace DeviceBridge

inductive Json where
  | null
  | bool (b : Bool)
  | int (i : Int)
  | float (f : Float)
  | string (s : String)
  | array (items : List Json)
  | object (members : List (String × Json))
deriving Inhabited

/-- How a truth value is spelt. -/
def boolText (b : Bool) : String := if b then "true" else "false"

namespace Json

/-! ## Scalars -/

/-- Numbers in JSON, which knows neither NaN nor infinity. -/
def number : Decimal.Style where
  plain := some (-5, 16)
  pointZero := true
  signedExponent := true
  tie := .toEven
  nan := "null"
  infinite := "null"
  signedInfinite := false

/-- A hexadecimal number of four digits. -/
def hex4 (n : Nat) : String :=
  let ds := Nat.toDigits 16 n
  String.ofList (List.replicate (4 - ds.length) '0' ++ ds)

def escape (c : Char) : String :=
  match c with
  | '"' => "\\\""
  | '\\' => "\\\\"
  | '\n' => "\\n"
  | '\r' => "\\r"
  | '\t' => "\\t"
  | c =>
    if c.toNat = 8 then "\\b"
    else if c.toNat = 12 then "\\f"
    else if c.toNat < 0x20 then "\\u" ++ hex4 c.toNat
    else c.toString

def quoted (s : String) : String := "\"" ++ String.join (s.toList.map escape) ++ "\""

/-! ## On one line -/

mutual

def compact : Json → String
  | null => "null"
  | bool b => boolText b
  | int i => toString i
  | float f => number.write f
  | string s => quoted s
  | array items => "[" ++ ",".intercalate (compactItems items) ++ "]"
  | object members => "\x7b" ++ ",".intercalate (compactMembers members) ++ "\x7d"

def compactItems : List Json → List String
  | [] => []
  | j :: js => compact j :: compactItems js

def compactMembers : List (String × Json) → List String
  | [] => []
  | (name, j) :: rest => (quoted name ++ ":" ++ compact j) :: compactMembers rest

end

/-! ## Indented -/

/-- A new line at a depth, two spaces for each level. -/
def newLine (depth : Nat) : String := "\n" ++ String.ofList (List.replicate (2 * depth) ' ')

/-- Items between brackets, each on a line of its own one level deeper. -/
def block (opening closing : String) (depth : Nat) (items : List String) : String :=
  if items.isEmpty then opening ++ closing
  else opening ++ newLine (depth + 1) ++ ("," ++ newLine (depth + 1)).intercalate items
    ++ newLine depth ++ closing

mutual

def prettyAt (depth : Nat) : Json → String
  | array items => block "[" "]" depth (prettyItems (depth + 1) items)
  | object members => block "\x7b" "\x7d" depth (prettyMembers (depth + 1) members)
  | null => "null"
  | bool b => boolText b
  | int i => toString i
  | float f => number.write f
  | string s => quoted s

def prettyItems (depth : Nat) : List Json → List String
  | [] => []
  | j :: js => prettyAt depth j :: prettyItems depth js

def prettyMembers (depth : Nat) : List (String × Json) → List String
  | [] => []
  | (name, j) :: rest => (quoted name ++ ": " ++ prettyAt depth j) :: prettyMembers depth rest

end

def pretty (j : Json) : String := prettyAt 0 j

/-! ## Sorted -/

/-- Put a member at its place in the order of names, in the stead of one that is there. -/
def insertMember (name : String) (j : Json) : List (String × Json) → List (String × Json)
  | [] => [(name, j)]
  | (n, k) :: rest =>
    if n = name then (name, j) :: rest
    else if name < n then (name, j) :: (n, k) :: rest
    else (n, k) :: insertMember name j rest

mutual

def sorted : Json → Json
  | array items => array (sortedItems items)
  | object members => object (sortedMembers [] members)
  | null => null
  | bool b => bool b
  | int i => int i
  | float f => float f
  | string s => string s

def sortedItems : List Json → List Json
  | [] => []
  | j :: js => sorted j :: sortedItems js

def sortedMembers (before : List (String × Json)) : List (String × Json) → List (String × Json)
  | [] => before
  | (name, j) :: rest => sortedMembers (insertMember name (sorted j) before) rest

end

end Json

end DeviceBridge
