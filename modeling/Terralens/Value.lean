import Terralens.Decimal.Notation
import Terralens.KeyMap
import Terralens.Text.Quoted

/-!
# Values

The value of an attribute. Literals are kept as values; whatever would have to be
evaluated is kept as the text of its expression.
-/

namespace Terralens

open Decimal

/-- The value of an attribute. The entries of a map are in key order. -/
inductive Value where
  | null
  | string (text : String)
  | number (n : Binary)
  | bool (b : Bool)
  | list (items : List Value)
  | map (entries : List (String × Value))
  | expression (text : String)
deriving Repr, Inhabited

/-- A double as values show it (`format_number`): whole numbers below `10 ^ 15` by their digits, any
  other with the fewest digits that read back, never with an exponent. -/
def numberText (n : Binary) : String :=
  if n.isWhole && n.magnitude < Nat.pow 10 15 then signed n.negative (digitsOf n.magnitude)
  else n.positional .double

namespace Value

/-- The map of the given entries; of several with one key the last counts. -/
def ofEntries (entries : List (String × Value)) : Value :=
  .map (entries.foldl (fun m (k, v) => insertEntry k v m) [])

/-- The text of a string (`as_str`); an expression is none. -/
def string? : Value → Option String
  | .string s => some s
  | _ => none

/-- The truth value of a boolean (`as_bool`). -/
def bool? : Value → Option Bool
  | .bool b => some b
  | _ => none

def isExpression : Value → Bool
  | .expression _ => true
  | _ => false

mutual

/-- A value as it would be written in a configuration (`expression_text`). -/
def text : Value → String
  | .null => "null"
  | .string s => Text.quotedString s
  | .number n => numberText n
  | .bool b => if b then "true" else "false"
  | .list items => "[" ++ ", ".intercalate (itemTexts items) ++ "]"
  | .map entries => "\x7b " ++ ", ".intercalate (entryTexts entries) ++ " \x7d"
  | .expression s => s

def itemTexts : List Value → List String
  | [] => []
  | v :: rest => v.text :: itemTexts rest

def entryTexts : List (String × Value) → List String
  | [] => []
  | (k, v) :: rest => (k ++ " = " ++ v.text) :: entryTexts rest

end

/-- Strings and expressions by their own text, any other value as it is written (`raw_text`). -/
def rawText : Value → String
  | .string s => s
  | .expression s => s
  | v => v.text

end Value

end Terralens
