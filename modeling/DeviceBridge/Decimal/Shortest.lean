/-
  The shortest decimal that reads back to a binary floating-point number.

  A positive finite number is `mantissa · 2^exponent` (`Binary`). The reals that round to it form
  an interval between the midpoints to its two neighbours; the ends belong to it when the mantissa
  is even. On the grid of `n`-digit decimals only the two grid points around the number itself have
  to be tried (`onGrid`), and the first `n` with a point inside the interval gives the shortest
  decimal (`shortest`). Everything is exact arithmetic on `Nat`.
-/

namespace DeviceBridge

/-- The number `digits · 10^exponent`. -/
structure Decimal where
  digits : Nat
  exponent : Int
deriving Repr, DecidableEq

namespace Decimal

/-- The positive number `mantissa · 2^exponent`. `narrow` says that the neighbour below is only
half as far away as the one above. -/
structure Binary where
  mantissa : Nat
  exponent : Int
  narrow : Bool
deriving Repr, DecidableEq

/-- Which of two equally near decimals is taken. -/
inductive Tie where
  | toEven
  | up
deriving Repr, DecidableEq

/-! ## Taking a number apart -/

/-- What a number is, its sign apart. -/
inductive Magnitude where
  | nan
  | infinite
  | zero
  | finite (number : Binary)
deriving Repr, DecidableEq

def isNegative (x : Float) : Bool := x.toBits >>> 63 != 0

/-- The leading bit of a mantissa, which the format leaves out: two to the power of 52. -/
def hiddenBit : Nat := 4503599627370496

/-- The fields of the 64-bit format: 11 bits of exponent over 52 bits of fraction. -/
def magnitude (x : Float) : Magnitude :=
  let bits := x.toBits.toNat
  let fraction := bits % hiddenBit
  let biased := bits / hiddenBit % 2048
  if biased = 2047 then (if fraction = 0 then .infinite else .nan)
  else if biased = 0 then (if fraction = 0 then .zero else .finite ⟨fraction, -1074, false⟩)
  else .finite ⟨hiddenBit + fraction, Int.ofNat biased - 1075, fraction == 0 && 1 < biased⟩

/-! ## The rounding interval -/

/-- A power, which is one for a negative exponent: there its inverse stands in the denominator. -/
def power (base : Nat) (exponent : Int) : Nat := Nat.pow base exponent.toNat

namespace Binary

/-- `10^e` measured in quarters of the last place of the number, as a quotient. -/
def scale (x : Binary) (e : Int) : Nat × Nat :=
  (power 10 e * power 2 (2 - x.exponent), power 10 (-e) * power 2 (x.exponent - 2))

/-- The decimal `c · 10^e` lies in the interval of reals that round to the number. -/
def readsBack (x : Binary) (c : Nat) (e : Int) : Bool :=
  let (num, den) := x.scale e
  let low := (4 * x.mantissa - if x.narrow then 1 else 2) * den
  let high := (4 * x.mantissa + 2) * den
  let point := c * num
  if x.mantissa % 2 = 0 then low ≤ point && point ≤ high else low < point && point < high

/-- The point of the grid `10^e` at or below the number. -/
def below (x : Binary) (e : Int) : Nat :=
  let (num, den) := x.scale e
  4 * x.mantissa * den / num

/-- Whether the number is nearer to `c · 10^e` than to `(c + 1) · 10^e`, or as near. -/
def sideOf (x : Binary) (c : Nat) (e : Int) : Ordering :=
  let (num, den) := x.scale e
  compare (8 * x.mantissa * den) ((2 * c + 1) * num)

/-- The grid point of `10^e` that reads back, the nearer one if both neighbours do. -/
def onGrid (x : Binary) (tie : Tie) (e : Int) : Option Nat :=
  let c := x.below e
  match 0 < c && x.readsBack c e, x.readsBack (c + 1) e with
  | true, true =>
    match x.sideOf c e, tie with
    | .lt, _ => some c
    | .gt, _ => some (c + 1)
    | .eq, .up => some (c + 1)
    | .eq, .toEven => if c % 2 = 0 then some c else some (c + 1)
  | true, false => some c
  | false, true => some (c + 1)
  | false, false => none

/-- How many decimal digits a natural number has; none for zero. -/
def digitCount (n : Nat) : Nat := if n = 0 then 0 else (Nat.toDigits 10 n).length

/-- The exponent of the leading decimal digit. -/
def leading (x : Binary) : Int :=
  let num := x.mantissa * power 2 x.exponent
  let den := power 2 (-x.exponent)
  if den ≤ num then Int.ofNat (digitCount (num / den)) - 1
  else -Int.ofNat (digitCount ((den + num - 1) / num - 1))

end Binary

/-! ## Selection -/

/-- The same number without trailing zeros among its digits. -/
def trim (digits : Nat) (exponent : Int) : Decimal :=
  if h : digits ≠ 0 ∧ digits % 10 = 0 then trim (digits / 10) (exponent + 1) else ⟨digits, exponent⟩
termination_by digits
decreasing_by omega

/-- The decimal of fewest digits that reads back, and among those the nearest. Seventeen digits
always suffice. -/
def shortest (tie : Tie) (x : Binary) : Decimal :=
  let k := x.leading
  let grids := (List.range 17).map fun n => k - Int.ofNat n
  match grids.findSome? fun e => (x.onGrid tie e).map fun c => trim c e with
  | some d => d
  | none => trim (x.below (k - 16)) (k - 16)

end Decimal

end DeviceBridge
