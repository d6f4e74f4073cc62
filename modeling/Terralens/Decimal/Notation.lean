import Terralens.Decimal.Shortest

/-!
# Writing decimals

Two notations of a decimal: `positional` writes every digit out and never uses an
exponent; `compact` writes numbers from `10 ^ -5` up to `10 ^ 16` positionally, with at
least one digit after the point, and all others with an exponent.
-/

namespace Terralens.Decimal

def digitsOf (n : Nat) : List Char := Nat.toDigits 10 n

def zeros (n : Nat) : List Char := List.replicate n '0'

/-- Every digit written out: `1500`, `0.15`, never an exponent and no `.0`. -/
def Digits.positional (d : Digits) : List Char :=
  let ds := digitsOf d.digits
  if 0 ≤ d.exponent then
    if d.digits = 0 then ['0'] else ds ++ zeros d.exponent.toNat
  else
    let places := d.exponent.natAbs
    if places < ds.length then
      ds.take (ds.length - places) ++ '.' :: ds.drop (ds.length - places)
    else '0' :: '.' :: zeros (places - ds.length) ++ ds

/-- Positional from `10 ^ -5` to `10 ^ 16` with a point always written, otherwise one
  digit before the point and an exponent: `3.0`, `0.15`, `1e21`, `1.5e-9`. -/
def Digits.compact (d : Digits) : List Char :=
  let ds := digitsOf d.digits
  let point := (ds.length : Int) + d.exponent
  if d.digits = 0 then ['0', '.', '0']
  else if 0 ≤ d.exponent && point ≤ 16 then ds ++ zeros d.exponent.toNat ++ ['.', '0']
  else if 0 < point && point ≤ 16 then
    ds.take point.toNat ++ '.' :: ds.drop point.toNat
  else if -5 < point && point ≤ 0 then
    '0' :: '.' :: zeros point.natAbs ++ ds
  else
    let power := (toString (point - 1)).toList
    match ds with
    | [] => []
    | [one] => one :: 'e' :: power
    | first :: more => first :: '.' :: more ++ 'e' :: power

/-- The sign of a number, written before it: zero has one, too. -/
def signed (negative : Bool) (s : List Char) : String :=
  String.ofList (if negative then '-' :: s else s)

def Binary.positional (f : Format) (b : Binary) : String :=
  signed b.negative (shortest f b).positional

def Binary.compact (b : Binary) : String :=
  signed b.negative (shortest .double b).compact

end Terralens.Decimal
