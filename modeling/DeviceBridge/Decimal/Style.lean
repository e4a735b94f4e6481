import DeviceBridge.Decimal.Shortest

/-
  How a floating-point number is written out. A `Style` holds the decisions of one text format;
  `Style.write` lays the shortest digits out by them. The styles themselves stand in the modules
  that write the texts.
-/

namespace DeviceBridge.Decimal

/-- The decisions of a text format for numbers. -/
structure Style where
  /-- Least and first-too-great exponent of the leading digit written without an exponent part. -/
  plain : Option (Int × Int)
  /-- An integral number keeps `.0`. -/
  pointZero : Bool
  /-- A positive exponent has a plus sign. -/
  signedExponent : Bool
  tie : Tie
  nan : String
  infinite : String
  /-- Infinity shows its sign. -/
  signedInfinite : Bool
deriving Repr

def zeros (n : Nat) : String := String.ofList (List.replicate n '0')

/-- The digits with a point and zeros where the number needs them. -/
def positional (pointZero : Bool) (ds : List Char) (exponent : Int) : String :=
  if 0 ≤ exponent then
    String.ofList ds ++ zeros exponent.toNat ++ (if pointZero then ".0" else "")
  else
    let places := (-exponent).toNat
    if places < ds.length then
      String.ofList (ds.take (ds.length - places)) ++ "."
        ++ String.ofList (ds.drop (ds.length - places))
    else "0." ++ zeros (places - ds.length) ++ String.ofList ds

/-- One digit, the others behind a point, and the exponent of the first digit. -/
def scientific (signed : Bool) (ds : List Char) (leading : Int) : String :=
  String.ofList (ds.take 1) ++ (if ds.length ≤ 1 then "" else "." ++ String.ofList (ds.drop 1))
    ++ "e" ++ (if signed && 0 ≤ leading then "+" else "") ++ toString leading

namespace Style

/-- The text of a positive decimal. -/
def layout (style : Style) (d : Decimal) : String :=
  let ds := Nat.toDigits 10 d.digits
  let leading := d.exponent + Int.ofNat ds.length - 1
  let plain := match style.plain with
    | none => true
    | some (low, high) => low ≤ leading && leading < high
  if plain then positional style.pointZero ds d.exponent
  else scientific style.signedExponent ds leading

def write (style : Style) (x : Float) : String :=
  let sign := if isNegative x then "-" else ""
  match magnitude x with
  | .nan => style.nan
  | .infinite => (if style.signedInfinite then sign else "") ++ style.infinite
  | .zero => sign ++ (if style.pointZero then "0.0" else "0")
  | .finite number => sign ++ style.layout (shortest style.tie number)

end Style

end DeviceBridge.Decimal
