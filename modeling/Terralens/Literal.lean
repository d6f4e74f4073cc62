import Terralens.Hcl.Layout
import Terralens.Text.Basic
import Terralens.Value

/-!
# Literal expressions

Which expressions are values as they stand. Null, numbers, booleans, texts, arrays and
objects are; a template is when nothing is inserted into it; every other expression is
kept as its text.
-/

namespace Terralens.Hcl

/-- The text of an expression without white space at its ends (`expression_to_string`). -/
def Expression.trimmedText (e : Expression) : String := String.ofList (Text.trim e.text)

/-- The value of a template that shows as `shown` (`convert_template`): the text it stands for when
  nothing is inserted, and otherwise the template as it shows. -/
def templateValue (shown text : String) : Value :=
  if hasSequence text.toList then .expression shown
  else .string (String.ofList (unescapeTemplate text.toList))

/-- The key that an expression before the sign of an object item stands for
  (`object_key_to_string`). -/
def Expression.keyText : Expression → String
  | .variable name => name
  | .string s => s
  | e => e.trimmedText

mutual

/-- The value of an expression (`convert_expression`). Arrays and objects are values whose items may
  be kept as text; nothing is evaluated. -/
def Expression.value : Expression → Value
  | .null => .null
  | .bool b => .bool b
  | .number n => .number n.toBinary
  | .string s => .string s
  | .array items => .list (itemValues items)
  | .object items => .ofEntries (entryValues items)
  | .template text => templateValue (Expression.template text).trimmedText text
  | .heredoc indented delimiter text =>
      templateValue (Expression.heredoc indented delimiter text).trimmedText text
  | e => .expression e.trimmedText

def itemValues : List Expression → List Value
  | [] => []
  | item :: rest => item.value :: itemValues rest

def entryValues : List (Expression × Expression) → List (String × Value)
  | [] => []
  | (key, item) :: rest => (key.keyText, item.value) :: entryValues rest

end

end Terralens.Hcl
