import DeviceBridge.Text.Unprintable

/-
  Quoted text in diagnostics: a string between double quotes with escapes, lists between brackets,
  and records with named fields.
-/

namespace DeviceBridge.Text

/-- The code point of a character in lower-case hexadecimal, without leading zeros. -/
def codeOf (c : Char) : String := String.ofList (Nat.toDigits 16 c.toNat)

/-- How one character stands inside double quotes. -/
def escape (c : Char) : String :=
  match c with
  | '\t' => "\\t"
  | '\r' => "\\r"
  | '\n' => "\\n"
  | '"' => "\\\""
  | '\\' => "\\\\"
  | c =>
    if c.toNat = 0 then "\\0"
    else if isUnprintable c then "\\u\x7b" ++ codeOf c ++ "\x7d"
    else c.toString

def quoted (s : String) : String := "\"" ++ String.join (s.toList.map escape) ++ "\""

def bracketed (items : List String) : String := "[" ++ ", ".intercalate items ++ "]"

def optional (item : Option String) : String :=
  match item with
  | none => "None"
  | some s => "Some(" ++ s ++ ")"

/-- A record with named fields, such as `Point { x: 1, y: 2 }`. -/
def record (name : String) (fields : List (String × String)) : String :=
  name ++ " \x7b " ++ ", ".intercalate (fields.map fun (n, v) => n ++ ": " ++ v) ++ " \x7d"

/-- A record of which some fields are not shown. -/
def openRecord (name : String) (fields : List (String × String)) : String :=
  name ++ " \x7b " ++ String.join (fields.map fun (n, v) => n ++ ": " ++ v ++ ", ") ++ ".. \x7d"

/-- The text with its ASCII letters in lower case. -/
def lower (s : String) : String := String.ofList (s.toList.map Char.toLower)

/-- Whether two texts are the same up to the case of ASCII letters. -/
def sameLetters (a b : String) : Bool := lower a == lower b

end DeviceBridge.Text
