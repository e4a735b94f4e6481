import DeviceBridge.Ron.Quoted

/-
  Numbers in RON text, and ranges of them. Numbers may hold underscores, be written in base 2, 8, 10
  or 16, and name their type in a suffix, which they have to fit. A whole number without suffix that
  does not fit into 64 bits reads as a floating-point number.
-/

namespace DeviceBridge.Ron

open Json (Reads digit hexDigit?)

def isWholeChar (c : Char) : Bool := (hexDigit? c).isSome || c == '_'

def isFloatChar (c : Char) : Bool :=
  c.isDigit || c == 'e' || c == 'E' || c == '.' || c == '+' || c == '-' || c == '_'

/-- The characters of a floating-point number at the front. Two points are not part of it. -/
def floatRun : List Char → List Char
  | [] => []
  | '.' :: '.' :: _ => []
  | c :: cs => if isFloatChar c then c :: floatRun cs else []

def withSign : List Char → Bool × List Char
  | '-' :: cs => (true, cs)
  | '+' :: cs => (false, cs)
  | cs => (false, cs)

/-! ## Whole numbers -/

/-- The value of the digits of a whole number in some base. -/
def wholeValue (base n : Nat) : List Char → Option Nat
  | [] => some n
  | c :: cs =>
    if c == '_' then wholeValue base n cs
    else match hexDigit? c with
      | some d => if d < base then wholeValue base (base * n + d) cs else none
      | none => none

/-- The base that the front of a number gives, and the digits behind it. -/
def baseOf (cs : List Char) : Nat × List Char :=
  match cs with
  | '0' :: 'b' :: cs => (2, cs)
  | '0' :: 'o' :: cs => (8, cs)
  | '0' :: 'x' :: cs => (16, cs)
  | cs => (10, cs)

def wholeTypes : List (String × WholeType) := WholeType.all.map fun t => (t.name, t)

/-- A whole number that fits the type that it names, or 64 bits. -/
def readWhole (cs : List Char) : Option (Ron × List Char) :=
  let (negative, cs) := withSign cs
  let (base, cs) := baseOf cs
  let ds := cs.takeWhile isWholeChar
  if ds.isEmpty || ds.head? == some '_' then none
  else match wholeValue base 0 ds with
    | none => none
    | some n =>
      let i := if negative then -Int.ofNat n else n
      match keyword wholeTypes (cs.dropWhile isWholeChar) with
      | some (t, cs) => if t.holds i then some (int i (some t), cs) else none
      | none =>
        if (if negative then WholeType.i64 else .u64).holds i then
          some (int i none, cs.dropWhile isWholeChar)
        else none

/-! ## Floating-point numbers -/

/-- The text of a floating-point number without its underscores: they may not stand at the front,
nor behind a point. -/
def withoutUnderscores (allowed : Bool) : List Char → Option (List Char)
  | [] => some []
  | c :: cs =>
    if c == '_' then (if allowed then withoutUnderscores allowed cs else none)
    else
      let allowed := if c == '.' then false else allowed || c.isDigit || c == 'e' || c == 'E'
      (withoutUnderscores allowed cs).map fun cs => c :: cs

def digitsValue (cs : List Char) : Nat := cs.foldl (fun n c => 10 * n + digit c) 0

/-- The exponent part of a number, which takes up the whole of the text. -/
def exponentValue : List Char → Option Int
  | [] => some 0
  | c :: cs =>
    if c == 'e' || c == 'E' then
      let (negative, ds) := withSign cs
      if ds.isEmpty || !ds.all Char.isDigit then none
      else some (if negative then -Int.ofNat (digitsValue ds) else digitsValue ds)
    else none

/-- The number that a text of digits with a point, an exponent, or neither stands for. `round` gives
the number that stands for a decimal. -/
def decimalValue (round : Decimal → Float) (cs : List Char) : Option Float := do
  let (negative, cs) := withSign cs
  let before := cs.takeWhile Char.isDigit
  let rest := cs.dropWhile Char.isDigit
  let (behind, rest) := match rest with
    | '.' :: rest => (rest.takeWhile Char.isDigit, rest.dropWhile Char.isDigit)
    | rest => ([], rest)
  if before.isEmpty && behind.isEmpty then none
  else
    let e ← exponentValue rest
    let x := round ⟨digitsValue (before ++ behind), e - Int.ofNat behind.length⟩
    return if negative then -x else x

/-- The suffixes of floating-point numbers. -/
def floatTypes : List (String × (Decimal → Float)) :=
  [("f32", Decimal.nearestSingle), ("f64", Decimal.nearest)]

/-- A name, alone and with each suffix. -/
def suffixed (meaning : String × Ron) : List (String × Ron) :=
  meaning :: floatTypes.map fun (suffix, _) => (meaning.1 ++ suffix, meaning.2)

/-- The names of numbers that have no digits. -/
def unsignedNames : List (String × Ron) :=
  [("inf", float Decimal.infinity), ("NaN", float Decimal.notANumber)].flatMap suffixed

def signedNames : List (String × Ron) :=
  [("+inf", float Decimal.infinity), ("-inf", float (-Decimal.infinity)),
    ("+NaN", float Decimal.notANumber), ("-NaN", minusNaN)].flatMap suffixed

def readFloat (cs : List Char) : Option (Ron × List Char) :=
  match keyword (unsignedNames ++ signedNames) cs with
  | some found => some found
  | none =>
    let run := floatRun cs
    let rest := cs.drop run.length
    let (round, rest) := (keyword floatTypes rest).getD (Decimal.nearest, rest)
    ((withoutUnderscores false run).bind (decimalValue round)).map fun x => (float x, rest)

/-! ## Numbers of either kind -/

/-- The number has more characters as a floating-point number than as a whole one. -/
def looksFractional (cs : List Char) : Bool :=
  let cs := (withSign cs).2
  (cs.takeWhile isWholeChar).length < (floatRun cs).length

def readNumber (cs : List Char) : Option (Ron × List Char) :=
  if looksFractional cs then readFloat cs
  else match readWhole cs with
    | some found => some found
    | none => readFloat cs

/-! ## Ranges -/

/-- A number, or a byte as the number of its type. -/
def readBound : Reads Ron
  | 'b' :: '\'' :: cs => (byteCharacter cs).map fun (b, cs) => (int b.toNat (some .u8), cs)
  | cs => readNumber cs

/-- What begins with a number or is a range without a first number. -/
def startsNumber (cs : List Char) : Bool :=
  match cs with
  | 'b' :: '\'' :: _ => true
  | c :: _ => c.isDigit || c == '+' || c == '-' || c == '.' || (keyword unsignedNames cs).isSome
  | [] => false

/-- The rest of a range behind its first number: two points, and the last number, if there is one.
There is one behind `=`. -/
def readRangeFrom (first : Option Ron) : Reads Ron
  | '.' :: '.' :: '=' :: cs => (readBound cs).map fun (last, cs) => (range first (some last), cs)
  | '.' :: '.' :: cs =>
    match readBound cs with
    | some (last, cs) => some (range first (some last), cs)
    | none => some (range first none, cs)
  | _ => none

/-- A number or a range; no blanks stand in a range. -/
def readNumeric (cs : List Char) : Option (Ron × List Char) :=
  match readRangeFrom none cs with
  | some found => some found
  | none =>
    match readBound cs with
    | some (first, cs) => some ((readRangeFrom (some first) cs).getD (first, cs))
    | none => none

end DeviceBridge.Ron
