import DeviceBridge.Decimal.Shortest

/-
  Decimals read as floating-point numbers. `nearest` gives the number nearest to a decimal, and
  `nearestSingle` the one of single precision. `scaled` rounds the digits first and scales them
  then; it agrees with `nearest` where both steps are exact, which they are up to 15 digits and
  exponents up to 22, and may miss it by the last place elsewhere.
-/

namespace DeviceBridge.Decimal

def infinity : Float := 1.0 / 0.0

def notANumber : Float := 0.0 / 0.0

/-- The number nearest to a decimal. A decimal far out of range is not worked out. -/
def nearest (d : Decimal) : Float :=
  let leading := d.exponent + Int.ofNat (Nat.toDigits 10 d.digits).length
  if d.digits = 0 || leading < -400 then 0.0
  else if 400 < leading then infinity
  else Float.ofScientific d.digits (d.exponent < 0) d.exponent.natAbs

/-! ## Single precision -/

/-- The whole number nearest to a quotient; a half goes to the even neighbour. -/
def roundQuotient (num den : Nat) : Nat :=
  let q := num / den
  let twice := 2 * (num % den)
  if den < twice ∨ (twice = den ∧ q % 2 = 1) then q + 1 else q

/-- The quotient that a power of two leaves of another one. -/
def scaledQuotient (num den : Nat) (exponent : Int) : Nat × Nat :=
  if exponent < 0 then (num * Nat.pow 2 exponent.natAbs, den)
  else (num, den * Nat.pow 2 exponent.natAbs)

/-- The number of 24 binary digits nearest to a positive quotient. The last digit is worth at least
`2^-149`, and from `2^128` on there are no numbers. -/
def singleOfQuotient (num den : Nat) : Float :=
  let least := Int.ofNat num.log2 - Int.ofNat den.log2 - 24
  let (n, d) := scaledQuotient num den least
  let exponent := max (if n / d < Nat.pow 2 24 then least else least + 1) (-149)
  let (n, d) := scaledQuotient num den exponent
  let mantissa := roundQuotient n d
  if exponent < 0 then Float.ofNat mantissa / Float.ofNat (Nat.pow 2 exponent.natAbs)
  else
    let whole := mantissa * Nat.pow 2 exponent.natAbs
    if whole < Nat.pow 2 128 then Float.ofNat whole else infinity

/-- The number of single precision nearest to a decimal. -/
def nearestSingle (d : Decimal) : Float :=
  let leading := d.exponent + Int.ofNat (Nat.toDigits 10 d.digits).length
  if d.digits = 0 || leading < -60 then 0.0
  else if 60 < leading then infinity
  else if d.exponent < 0 then singleOfQuotient d.digits (Nat.pow 10 d.exponent.natAbs)
  else singleOfQuotient (d.digits * Nat.pow 10 d.exponent.natAbs) 1

/-! ## Digits first -/

/-- A power of ten, for exponents up to 308. -/
def powerOfTen (exponent : Nat) : Float := Float.ofScientific 1 false exponent

/-- Divide by powers of ten; what is still left after some steps is nothing. -/
def scaleDown (x : Float) (exponent : Nat) : Nat → Float
  | 0 => 0.0
  | steps + 1 =>
    if exponent ≤ 308 then x / powerOfTen exponent
    else scaleDown (x / powerOfTen 308) (exponent - 308) steps

/-- Round the digits, then scale. A decimal that gets too great has no number. -/
def scaled (digits : UInt64) (exponent : Int) : Option Float :=
  let x := digits.toFloat
  if digits = 0 then some 0.0
  else if exponent < 0 then some (scaleDown x exponent.natAbs 4)
  else if 308 < exponent then none
  else
    let scaled := x * powerOfTen exponent.toNat
    if scaled.isInf then none else some scaled

end DeviceBridge.Decimal
