import DeviceBridge.Ron.Word

/-
  Quoted parts of RON text: strings, characters, and the bytes behind `b`. A backslash at the end of
  a line joins the line to what stands on the next one. Raw strings have no escapes.
-/

namespace DeviceBridge.Ron

open Json (Reads hexDigit?)

/-! ## Escapes -/

/-- The escapes of one letter or mark. -/
def simpleEscape? : Char → Option Char
  | '\'' => some '\''
  | '"' => some '"'
  | '\\' => some '\\'
  | 'n' => some '\n'
  | 'r' => some '\r'
  | 't' => some '\t'
  | '0' => some (Char.ofNat 0)
  | _ => none

/-- Up to `most` hexadecimal digits before a closing brace. -/
def bracedCode (n : Nat) : Nat → Reads Nat
  | _, '\x7d' :: cs => some (n, cs)
  | 0, _ => none
  | most + 1, c :: cs =>
    match hexDigit? c with
    | some d => bracedCode (16 * n + d) most cs
    | none => none
  | _ + 1, [] => none

def charOf? (n : Nat) : Option Char :=
  if n < 0xD800 ∨ (0xE000 ≤ n ∧ n < 0x110000) then some (Char.ofNat n) else none

/-- A character given by its code. -/
def codeChar : Reads Char
  | '\x7b' :: '\x7d' :: _ => none
  | '\x7b' :: cs => (bracedCode 0 6 cs).bind fun (n, cs) => (charOf? n).map fun c => (c, cs)
  | _ => none

/-- Two hexadecimal digits. -/
def byte : Reads UInt8
  | a :: b :: cs => do
    let a ← hexDigit? a
    let b ← hexDigit? b
    return (UInt8.ofNat (16 * a + b), cs)
  | _ => none

/-- The one character that some bytes make up. -/
def charOfBytes? (bytes : List UInt8) : Option Char :=
  match (String.fromUTF8? ⟨bytes.toArray⟩).map String.toList with
  | some [c] => some c
  | _ => none

/-- A character given by up to so many bytes, each behind `\x`. -/
def byteChar (bytes : List UInt8) : Nat → Reads Char
  | 0, _ => none
  | more + 1, cs =>
    match byte cs with
    | none => none
    | some (b, cs) =>
      match charOfBytes? (bytes ++ [b]) with
      | some c => some (c, cs)
      | none =>
        match cs with
        | '\\' :: 'x' :: cs => byteChar (bytes ++ [b]) more cs
        | _ => none

/-- What stands behind a backslash. `most` bounds the bytes of a character. -/
def escaped (most : Nat) : Reads Char
  | 'x' :: cs => byteChar [] most cs
  | 'u' :: cs => codeChar cs
  | c :: cs => (simpleEscape? c).map fun c => (c, cs)
  | [] => none

def utf8 (c : Char) : List UInt8 := c.toString.toUTF8.toList

/-- What stands behind a backslash among bytes. -/
def escapedBytes : Reads (List UInt8)
  | 'x' :: cs => (byte cs).map fun (b, cs) => ([b], cs)
  | cs => (escaped 1 cs).map fun (c, cs) => (utf8 c, cs)

/-! ## Strings -/

/-- Blanks that count for nothing where a line goes on behind a backslash. -/
def isLineBlank (c : Char) : Bool := c == ' ' || c == '\t' || c == '\n' || c == '\r'

/-- What stands before the closing quote, in units that a plain character or an escape makes up.
`read` holds the units so far, the last one first. The fuel bounds the number of characters. -/
def readQuoted {α : Type} (plain : Char → List α) (escape : Reads (List α)) (read : List α) :
    Nat → Reads (List α)
  | 0, _ => none
  | _ + 1, [] => none
  | _ + 1, '"' :: cs => some (read.reverse, cs)
  | fuel + 1, '\\' :: '\n' :: cs =>
    readQuoted plain escape read fuel (cs.dropWhile isLineBlank)
  | fuel + 1, '\\' :: '\r' :: '\n' :: cs =>
    readQuoted plain escape read fuel (cs.dropWhile isLineBlank)
  | fuel + 1, '\\' :: cs =>
    match escape cs with
    | some (units, cs) => readQuoted plain escape (units.reverse ++ read) fuel cs
    | none => none
  | fuel + 1, c :: cs => readQuoted plain escape ((plain c).reverse ++ read) fuel cs

/-- The text before an ending, and what stands behind the ending. -/
def splitAtEnding (ending before : List Char) : List Char → Option (List Char × List Char)
  | [] => none
  | c :: cs =>
    if ending.isPrefixOf (c :: cs) then some (before.reverse, (c :: cs).drop ending.length)
    else splitAtEnding ending (c :: before) cs

/-- A string without escapes: between quotes with as many `#` behind as in front. -/
def rawString (cs : List Char) : Option (String × List Char) :=
  let hashes := cs.takeWhile (· == '#')
  match cs.dropWhile (· == '#') with
  | '"' :: cs => (splitAtEnding ('"' :: hashes) [] cs).map fun (s, cs) => (String.ofList s, cs)
  | _ => none

def escapedString (cs : List Char) : Option (String × List Char) :=
  (readQuoted (fun c => [c]) (fun cs => (escaped 4 cs).map fun (c, cs) => ([c], cs)) []
    (cs.length + 1) cs).map fun (s, cs) => (String.ofList s, cs)

def escapedByteString (cs : List Char) : Option (List UInt8 × List Char) :=
  readQuoted utf8 escapedBytes [] (cs.length + 1) cs

/-- A string in either form. -/
def readString : Reads String
  | '"' :: cs => escapedString cs
  | 'r' :: cs => rawString cs
  | _ => none

/-! ## Single characters and bytes -/

def character : Reads Char
  | '\\' :: cs =>
    match escaped 1 cs with
    | some (c, '\'' :: cs) => some (c, cs)
    | _ => none
  | c :: '\'' :: cs => some (c, cs)
  | _ => none

/-- A byte given by an ASCII character or an escape, but not by the code of a character. -/
def byteCharacter : Reads UInt8
  | '\\' :: cs =>
    match cs with
    | 'x' :: cs =>
      match byte cs with
      | some (b, '\'' :: cs) => some (b, cs)
      | _ => none
    | c :: '\'' :: cs => (simpleEscape? c).map fun c => (UInt8.ofNat c.toNat, cs)
    | _ => none
  | c :: '\'' :: cs => if c.toNat < 128 then some (UInt8.ofNat c.toNat, cs) else none
  | _ => none

/-- What stands in quotes at the front. -/
def readLiteral : Reads Ron
  | '\'' :: cs => (character cs).map fun (c, cs) => (char c, cs)
  | 'b' :: '"' :: cs => (escapedByteString cs).map fun (b, cs) => (bytes b, cs)
  | 'b' :: 'r' :: cs => (rawString cs).map fun (s, cs) => (bytes s.toUTF8.toList, cs)
  | cs => (readString cs).map fun (s, cs) => (string s, cs)

end DeviceBridge.Ron
