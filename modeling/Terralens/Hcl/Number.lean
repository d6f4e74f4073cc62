import Terralens.Decimal.Notation
import Terralens.Hcl.Trivia

/-!
# Numbers of the configuration language

A number written in a configuration is whole or a double. A double without fractional part becomes
whole when it fits the 64-bit integers, so `1e3` and `1000` are the same number.

A numeral with a fraction or an exponent is read as a double, any other as a whole number of at
most 64 bits. A double too large for its format is refused, and so is a larger whole number; an
exponent without digits is a failure.
-/

namespace Terralens.Hcl

open Terralens.Decimal

inductive Number where
  | whole (n : Int)
  | real (b : Binary)
deriving DecidableEq, Repr

namespace Number

def least : Int := -9223372036854775808

/-- The first whole number too large to be kept as such. -/
def limit : Int := 18446744073709551616

/-- A double, taken as a whole number where that is possible. -/
def ofBinary (b : Binary) : Number :=
  let n : Int := if b.negative then -(b.magnitude : Int) else b.magnitude
  if b.isWhole && least ≤ n && n < limit then .whole n else .real b

def toBinary : Number → Binary
  | .whole n => .ofInt n
  | .real b => b

/-- The opposite number. A whole number above the signed 64-bit range is first taken
  modulo `2 ^ 64`. -/
def neg : Number → Number
  | .whole n => .whole (if n ≤ 9223372036854775808 then -n else limit - n)
  | .real b => .real b.neg

def text : Number → String
  | .whole n => toString n
  | .real b => b.compact

end Number

/-! ### Reading numbers -/

def natOfDigits (ds : List Char) : Nat :=
  ds.foldl (fun n d => 10 * n + (d.toNat - '0'.toNat)) 0

def digits : Reader (List Char) := Reader.span1 Char.isDigit

def exponentPart : Reader Int := do
  Reader.orElse (Reader.char 'e') (Reader.char 'E')
  let sign ← Reader.optional (Reader.orElse (do Reader.char '-'; pure true)
    (do Reader.char '+'; pure false))
  let ds ← (digits.cut).expecting none ["digit"]
  let n : Int := natOfDigits ds
  pure (if sign.getD false then -n else n)

def fractionAndExponent : Reader (List Char × Int) :=
  Reader.orElse
    (do
      Reader.char '.'
      let fraction ← digits
      let exponent ← Reader.optional exponentPart
      pure (fraction, exponent.getD 0))
    (do
      let exponent ← exponentPart
      pure ([], exponent))

def realNumeral : Reader Number := do
  let ds ← digits
  let (fraction, exponent) ← fractionAndExponent
  match Binary.ofDecimal? .double false (natOfDigits (ds ++ fraction))
      (exponent - fraction.length) with
  | some b => pure (Number.ofBinary b)
  | none => Reader.refuse

def wholeNumeral : Reader Nat := do
  let ds ← digits
  let n := natOfDigits ds
  if (n : Int) < Number.limit then pure n else Reader.refuse

def numeral : Reader Number :=
  Reader.orElse realNumeral (do let n ← wholeNumeral; pure (.whole n))

def negativeNumeral : Reader Number := do
  Reader.char '-'
  sp
  let n ← numeral
  pure n.neg

end Terralens.Hcl
