import DeviceBridge.Decimal.Reading
import DeviceBridge.Json.Basic

/-
  Reading JSON text. Each reader takes what it can from the front of the text and gives back the
  rest, or fails. A number is an integer if it is written without point and exponent and has 64
  bits; other numbers are floating-point and read as `Decimal.scaled` says.
-/

namespace DeviceBridge.Json

/-- A reader takes something from the front of a text. -/
abbrev Reads (α : Type) := List Char → Option (α × List Char)

def isBlank (c : Char) : Bool := c == ' ' || c == '\n' || c == '\r' || c == '\t'

def skipBlanks (cs : List Char) : List Char := cs.dropWhile isBlank

/-- The text without a word at its front. -/
def afterWord (word : String) (cs : List Char) : Option (List Char) :=
  if word.toList.isPrefixOf cs then some (cs.drop word.toList.length) else none

def digit (c : Char) : Nat := c.toNat - '0'.toNat

/-! ## Numbers -/

/-- Take digits up to the first that does not fit any more: the number so far, how many digits went
into it, and the digits that are left. -/
def absorb (n taken : Nat) : List Char → Nat × Nat × List Char
  | [] => (n, taken, [])
  | c :: cs =>
    if 10 * n + digit c < UInt64.size then absorb (10 * n + digit c) (taken + 1) cs
    else (n, taken, c :: cs)

/-- The digits of a whole number: no zero stands in front of others. -/
def wholeDigits : Reads (List Char)
  | [] => none
  | c :: cs =>
    if c == '0' then
      if (cs.head?.map Char.isDigit).getD false then none else some (['0'], cs)
    else if c.isDigit then some (c :: cs.takeWhile Char.isDigit, cs.dropWhile Char.isDigit)
    else none

/-- The digits behind a point, if there is one. -/
def fractionDigits : Reads (List Char)
  | '.' :: cs =>
    let ds := cs.takeWhile Char.isDigit
    if ds.isEmpty then none else some (ds, cs.dropWhile Char.isDigit)
  | cs => some ([], cs)

def exponentDigits (negative : Bool) (cs : List Char) : Option (Option Int × List Char) :=
  let ds := cs.takeWhile Char.isDigit
  if ds.isEmpty then none
  else
    let n := ds.foldl (fun n c => 10 * n + digit c) 0
    some (some (if negative then -Int.ofNat n else n), cs.dropWhile Char.isDigit)

/-- The exponent, if there is one. -/
def exponent : Reads (Option Int)
  | c :: cs =>
    if c == 'e' || c == 'E' then
      match cs with
      | '-' :: cs => exponentDigits true cs
      | '+' :: cs => exponentDigits false cs
      | cs => exponentDigits false cs
    else some (none, c :: cs)
  | [] => some (none, [])

/-- A whole number as JSON: in 64 bits with or without sign it is an integer, but zero with a sign
is not. -/
def wholeNumber (negative : Bool) (whole : List Char) : Option Json :=
  let (n, _, left) := absorb 0 0 whole
  if left.isEmpty then
    if !negative then some (int n)
    else if 0 < n ∧ Int64.minValue.toInt ≤ -Int.ofNat n then some (int (-Int.ofNat n))
    else some (float (-(UInt64.ofNat n).toFloat))
  else (Decimal.scaled (UInt64.ofNat n) left.length).map fun x => float (if negative then -x else x)

/-- A number with a fraction or an exponent. Digits that do not fit any more are left out. -/
def fractionalNumber (negative : Bool) (whole fraction : List Char) (exponent : Int) :
    Option Json :=
  let (n, _, left) := absorb 0 0 whole
  let (n, places, _) := absorb n 0 fraction
  let exponent := Int.ofNat left.length - Int.ofNat places + exponent
  (Decimal.scaled (UInt64.ofNat n) exponent).map fun x => float (if negative then -x else x)

def readNumber (negative : Bool) (cs : List Char) : Option (Json × List Char) := do
  let (whole, cs) ← wholeDigits cs
  let (fraction, cs) ← fractionDigits cs
  let (power, cs) ← exponent cs
  let j ← if fraction.isEmpty && power.isNone then wholeNumber negative whole
    else fractionalNumber negative whole fraction (power.getD 0)
  return (j, cs)

/-! ## Strings -/

def hexDigit? (c : Char) : Option Nat :=
  if c.isDigit then some (digit c)
  else if 'a' ≤ c ∧ c ≤ 'f' then some (c.toNat - 'a'.toNat + 10)
  else if 'A' ≤ c ∧ c ≤ 'F' then some (c.toNat - 'A'.toNat + 10)
  else none

/-- Four hexadecimal digits. -/
def unit16 : Reads Nat
  | a :: b :: c :: d :: cs => do
    let a ← hexDigit? a
    let b ← hexDigit? b
    let c ← hexDigit? c
    let d ← hexDigit? d
    return (4096 * a + 256 * b + 16 * c + d, cs)
  | _ => none

/-- The character behind a `u` escape. Two surrogates make one character; one alone makes none. -/
def codePoint (cs : List Char) : Option (Char × List Char) := do
  let (high, cs) ← unit16 cs
  if 0xD800 ≤ high ∧ high < 0xDC00 then
    let (low, cs) ← unit16 (← afterWord "\\u" cs)
    if 0xDC00 ≤ low ∧ low < 0xE000 then
      return (Char.ofNat (0x10000 + 0x400 * (high - 0xD800) + (low - 0xDC00)), cs)
    else none
  else if 0xDC00 ≤ high ∧ high < 0xE000 then none
  else return (Char.ofNat high, cs)

/-- The character that a letter behind a backslash stands for. -/
def escaped? (c : Char) : Option Char :=
  match c with
  | '"' => some '"'
  | '\\' => some '\\'
  | '/' => some '/'
  | 'b' => some (Char.ofNat 8)
  | 'f' => some (Char.ofNat 12)
  | 'n' => some '\n'
  | 'r' => some '\r'
  | 't' => some '\t'
  | _ => none

/-- What stands before the closing quote. The fuel bounds the number of characters. -/
def readString (read : List Char) : Nat → Reads String
  | 0, _ => none
  | _ + 1, [] => none
  | _ + 1, '"' :: cs => some (String.ofList read.reverse, cs)
  | fuel + 1, '\\' :: 'u' :: cs =>
    match codePoint cs with
    | some (c, cs) => readString (c :: read) fuel cs
    | none => none
  | fuel + 1, '\\' :: c :: cs =>
    match escaped? c with
    | some c => readString (c :: read) fuel cs
    | none => none
  | fuel + 1, c :: cs => if c.toNat < 0x20 then none else readString (c :: read) fuel cs

def quotedString : Reads String
  | '"' :: cs => readString [] (cs.length + 1) cs
  | _ => none

/-! ## Documents -/

mutual

/-- A document. The fuel bounds the number of values and separators. -/
def readValue : Nat → Reads Json
  | 0, _ => none
  | fuel + 1, cs =>
    match skipBlanks cs with
    | '"' :: cs => (quotedString ('"' :: cs)).map fun (s, cs) => (string s, cs)
    | '[' :: cs =>
      match skipBlanks cs with
      | ']' :: cs => some (array [], cs)
      | cs => (readItems [] fuel cs).map fun (items, cs) => (array items, cs)
    | '\x7b' :: cs =>
      match skipBlanks cs with
      | '\x7d' :: cs => some (object [], cs)
      | cs => (readMembers [] fuel cs).map fun (members, cs) => (object members, cs)
    | '-' :: cs => readNumber true cs
    | cs =>
      match afterWord "null" cs, afterWord "true" cs, afterWord "false" cs with
      | some cs, _, _ => some (null, cs)
      | _, some cs, _ => some (bool true, cs)
      | _, _, some cs => some (bool false, cs)
      | _, _, _ => readNumber false cs

def readItems (read : List Json) : Nat → Reads (List Json)
  | 0, _ => none
  | fuel + 1, cs =>
    match readValue fuel cs with
    | none => none
    | some (j, cs) =>
      match skipBlanks cs with
      | ',' :: cs => readItems (j :: read) fuel cs
      | ']' :: cs => some ((j :: read).reverse, cs)
      | _ => none

def readMembers (read : List (String × Json)) : Nat → Reads (List (String × Json))
  | 0, _ => none
  | fuel + 1, cs =>
    match quotedString (skipBlanks cs) with
    | none => none
    | some (name, cs) =>
      match skipBlanks cs with
      | ':' :: cs =>
        match readValue fuel cs with
        | none => none
        | some (j, cs) =>
          match skipBlanks cs with
          | ',' :: cs => readMembers ((name, j) :: read) fuel cs
          | '\x7d' :: cs => some (((name, j) :: read).reverse, cs)
          | _ => none
      | _ => none

end

/-- The document that a text holds, with nothing behind it. -/
def parse? (text : String) : Option Json :=
  match readValue (2 * text.length + 2) text.toList with
  | some (j, cs) => if (skipBlanks cs).isEmpty then some j else none
  | none => none

/-- The member of a name; of several the last counts. -/
def member? (name : String) : Json → Option Json
  | object members => (members.reverse.find? fun m => m.1 == name).map (·.2)
  | _ => none

end DeviceBridge.Json
