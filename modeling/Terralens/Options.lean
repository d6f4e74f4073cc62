import Terralens.Decimal.Notation

/-!
# Options

What a user can set: how directories are scanned, which model is asked and how, what goes
into prompts, and how results are shown.
-/

namespace Terralens

open Decimal

/-- A temperature of the model: a number in single precision, or one of the values that
  are no numbers. -/
inductive Temperature where
  | finite (b : Binary)
  | infinite (negative : Bool)
  | undefined
deriving DecidableEq, Repr, Inhabited

namespace Temperature

def ofBinary (b : Binary) : Temperature :=
  match b.convert? .single with
  | some b => .finite b
  | none => .infinite b.negative

/-- The temperature nearest to `digits * 10 ^ exponent`. -/
def ofDecimal (digits : Nat) (exponent : Int) : Temperature :=
  match Binary.ofDecimal? .single false digits exponent with
  | some b => .finite b
  | none => .infinite false

def text : Temperature → String
  | .finite b => b.positional .single
  | .infinite negative => if negative then "-inf" else "inf"
  | .undefined => "NaN"

/-- Whether the temperature lies between zero and `limit`. -/
def withinZeroAnd (limit : Nat) : Temperature → Bool
  | .finite b =>
      let (num, den) := b.ratio
      b.significand == 0 || (!b.negative && num ≤ limit * den)
  | _ => false

end Temperature

structure ScanOptions where
  recursive : Bool := false
  excludePatterns : List String := ["override.tf", "*_override.tf"]
  maxDepth : Nat := 100
  parallel : Bool := true
deriving DecidableEq, Repr, Inhabited

/-- Which model is asked and how (`ModelConfig`). -/
structure ModelOptions where
  host : String := "http://localhost:11434"
  name : String := "codellama:7b-instruct"
  temperature : Temperature := .ofDecimal 7 (-1)
  maxTokens : Nat := 4096
  timeoutSeconds : Nat := 300
deriving DecidableEq, Repr, Inhabited

/-- What goes into prompts: a budget for the text of files, and the date of the
  documentation the model is told about. -/
structure AgentOptions where
  maxContextBytes : Nat := 65536
  docsSnapshot : String := "2024-06-22"
deriving DecidableEq, Repr, Inhabited

structure OutputOptions where
  coloured : Bool := true
  verbose : Bool := false
  pretty : Bool := true
deriving DecidableEq, Repr, Inhabited

/-- All options, by their sections (`Config`). -/
structure Options where
  scan : ScanOptions := {}
  model : ModelOptions := {}
  agent : AgentOptions := {}
  output : OutputOptions := {}
deriving DecidableEq, Repr, Inhabited

end Terralens
