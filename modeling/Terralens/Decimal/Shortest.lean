import Terralens.Decimal.Binary

/-!
# The shortest decimal that reads back

Among the decimals that round to a given binary number, `shortest` picks one with the
fewest digits, and of those the nearest. The interval of reals that round to the number
is written with integers: four times the significand, plus two above, minus two below
(one below when the next smaller number is only half a unit away). Its ends belong to it
exactly when the significand is even.
-/

namespace Terralens.Decimal

/-- A decimal `digits * 10 ^ exponent`. -/
structure Digits where
  digits : Nat
  exponent : Int
deriving DecidableEq, Repr

/-- The natural number `10 ^ e`, or 1 when `e` is negative. -/
def tenPow (e : Int) : Nat := Nat.pow 10 e.toNat

/-- The largest `k` at most `bound` with `10 ^ k ≤ num / den`, searched downwards. -/
def scaleBelow (num den : Nat) : Nat → Int → Int
  | 0, k => k
  | fuel + 1, k =>
      if den * tenPow k ≤ num * tenPow (-k) then k else scaleBelow num den fuel (k - 1)

/-- The exponent of the leading decimal digit of `num / den`. -/
def leadingExponent (num den : Nat) : Int :=
  let estimate := ((num.log2 : Int) - (den.log2 : Int)) * 30103 / 100000 + 2
  scaleBelow num den 8 estimate

/-- The reals that round to `significand * 2 ^ exponent`, in quarters of a unit. -/
structure Basin where
  low : Nat
  mid : Nat
  high : Nat
  closed : Bool
  exponent : Int

def Basin.of (f : Format) (significand : Nat) (exponent : Int) : Basin :=
  let narrow := significand == Nat.pow 2 (f.precision - 1) && f.minExponent < exponent
  { low := 4 * significand - (if narrow then 1 else 2)
    mid := 4 * significand
    high := 4 * significand + 2
    closed := significand % 2 == 0
    exponent := exponent - 2 }

/-- Whether `d * 10 ^ k` lies in the basin. -/
def Basin.holds (b : Basin) (d : Nat) (k : Int) : Bool :=
  let value := d * tenPow k * twoPow (-b.exponent)
  let unit := twoPow b.exponent * tenPow (-k)
  let low := b.low * unit
  let high := b.high * unit
  if b.closed then low ≤ value && value ≤ high else low < value && value < high

/-- The point of the grid of spacing `10 ^ k` that the basin holds, the nearer of the
  middle's two neighbours when it holds both. -/
def Basin.onGrid? (b : Basin) (k : Int) : Option Nat :=
  let num := b.mid * twoPow b.exponent * tenPow (-k)
  let den := twoPow (-b.exponent) * tenPow k
  let below := num / den
  let rest := num % den
  match b.holds below k && below != 0, b.holds (below + 1) k with
  | true, true => some (if 2 * rest < den || (2 * rest == den && below % 2 == 0) then below
      else below + 1)
  | true, false => some below
  | false, true => some (below + 1)
  | false, false => none

def searchGrids (b : Basin) (top : Int) : Nat → Nat → Digits
  | 0, n => ⟨b.mid, top - n⟩
  | fuel + 1, n =>
      let k := top - n
      match b.onGrid? k with
      | some d => ⟨d, k⟩
      | none => searchGrids b top fuel (n + 1)

/-- Moves zeros at the end of the digits into the exponent. -/
def Digits.strip : Nat → Digits → Digits
  | 0, d => d
  | fuel + 1, d =>
      if d.digits ≠ 0 && d.digits % 10 = 0 then strip fuel ⟨d.digits / 10, d.exponent + 1⟩ else d

def shortest (f : Format) (b : Binary) : Digits :=
  if b.significand = 0 then ⟨0, 0⟩
  else
    let (num, den) := b.ratio
    (searchGrids (.of f b.significand b.exponent) (leadingExponent num den) 18 0).strip 20

end Terralens.Decimal
