/-!
# Binary floating point, exactly

A finite binary number is a sign, a natural significand and an exponent of two. All
arithmetic is on natural numbers, so nothing here depends on a machine's own numbers: a
quotient is rounded to the nearest representable number, a tie to the even significand.
-/

namespace Terralens.Decimal

/-- A format of binary numbers: significands below `2 ^ precision`, exponents between
  `minExponent` and `maxExponent`. -/
structure Format where
  precision : Nat
  minExponent : Int
  maxExponent : Int
deriving DecidableEq, Repr

def Format.double : Format := ⟨53, -1074, 971⟩

def Format.single : Format := ⟨24, -149, 104⟩

/-- The number `± significand * 2 ^ exponent`. -/
structure Binary where
  negative : Bool
  significand : Nat
  exponent : Int
deriving DecidableEq, Repr, Inhabited

/-- The natural number `2 ^ e`, or 1 when `e` is negative. -/
def twoPow (e : Int) : Nat := Nat.pow 2 e.toNat

/-- The quotient of two natural numbers rounded to the nearest one, a tie to the even one. -/
def roundDiv (num den : Nat) : Nat :=
  let q := num / den
  let r := num % den
  if 2 * r < den then q
  else if den < 2 * r then q + 1
  else if q % 2 = 0 then q else q + 1

/-- The significand and exponent nearest to `num / den` with exponent at least `e`:
  the exponent is raised by one when the rounded significand does not fit. -/
def roundAt (f : Format) (num den : Nat) (e : Int) : Nat × Int :=
  let m := roundDiv (num * twoPow (-e)) (den * twoPow e)
  if m < Nat.pow 2 f.precision then (m, e)
  else (roundDiv (num * twoPow (-(e + 1))) (den * twoPow (e + 1)), e + 1)

/-- The exponent that leaves `num / den` a significand of `precision` bits, or of one
  bit more, unless the format's least exponent is larger. -/
def startExponent (f : Format) (num den : Nat) : Int :=
  max f.minExponent ((num.log2 : Int) - (den.log2 : Int) - f.precision)

/-- `num / den` rounded to the format; `none` when it is too large. -/
def Binary.ofRatio? (f : Format) (negative : Bool) (num den : Nat) : Option Binary :=
  if num = 0 then some ⟨negative, 0, f.minExponent⟩
  else
    let e := startExponent f num den
    let fits := num * twoPow (-e) / (den * twoPow e) < Nat.pow 2 f.precision
    let (m, e) := roundAt f num den (if fits then e else e + 1)
    if e ≤ f.maxExponent then some ⟨negative, m, e⟩ else none

/-- The number `± digits * 10 ^ exponent` rounded to the format. Exponents far outside
  the format's range are cut short: such a number is zero or too large in any case. -/
def Binary.ofDecimal? (f : Format) (negative : Bool) (digits : Nat) (exponent : Int) :
    Option Binary :=
  if digits = 0 then some ⟨negative, 0, f.minExponent⟩
  else
    let size := (digits.log2 : Int) / 3 + 1
    if exponent > 400 then none
    else if exponent + size < -400 then some ⟨negative, 0, f.minExponent⟩
    else if exponent < 0 then Binary.ofRatio? f negative digits (Nat.pow 10 exponent.natAbs)
    else Binary.ofRatio? f negative (digits * Nat.pow 10 exponent.toNat) 1

def Binary.ofInt (n : Int) : Binary :=
  (Binary.ofRatio? .double (decide (n < 0)) n.natAbs 1).getD ⟨decide (n < 0), 0, -1074⟩

namespace Binary

def ratio (b : Binary) : Nat × Nat :=
  (b.significand * twoPow b.exponent, twoPow (-b.exponent))

def isWhole (b : Binary) : Bool :=
  let (num, den) := b.ratio
  num % den == 0

/-- The whole part of the number, without its sign. -/
def magnitude (b : Binary) : Nat :=
  let (num, den) := b.ratio
  num / den

/-- The number in another format; `none` when it is too large there. -/
def convert? (f : Format) (b : Binary) : Option Binary :=
  let (num, den) := b.ratio
  ofRatio? f b.negative num den

def neg (b : Binary) : Binary := { b with negative := !b.negative }

end Binary

end Terralens.Decimal
