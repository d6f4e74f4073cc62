import Terralens.Hcl.Escape
import Terralens.Hcl.Expression

/-!
# Writing expressions

The one form in which an expression is shown. Arrays and objects stand on several lines,
two blanks per level, except inside call arguments and conditionals, where they are
`compact`. Blanks and comments of the source do not appear.

A separator is written before an item unless the item is `fresh`, that is, unless nothing
was written since the last opening bracket. An empty array or object as an item leaves
its successor fresh, so no comma follows it; the flag is therefore handed from item to item.
-/

namespace Terralens.Hcl

/-- How arrays and objects are laid out: on one line, or at a level of indentation. -/
structure Style where
  compact : Bool
  level : Nat

def Style.margin (style : Style) : List Char := List.replicate (2 * style.level) ' '

def Style.inner (style : Style) : Style :=
  if style.compact then style else { style with level := style.level + 1 }

def Style.beforeItem (style : Style) (fresh : Bool) : List Char :=
  match style.compact, fresh with
  | true, true => []
  | true, false => [',', ' ']
  | false, true => '\n' :: style.margin
  | false, false => ',' :: '\n' :: style.margin

def Style.beforeKey (style : Style) (fresh : Bool) : List Char :=
  match style.compact, fresh with
  | true, true => [' ']
  | true, false => [',', ' ']
  | false, _ => '\n' :: style.margin

def Style.beforeClose (style : Style) (empty : Bool) : List Char :=
  if empty || style.compact then [] else '\n' :: style.margin

def Style.beforeBrace (style : Style) (empty : Bool) : List Char :=
  if empty then [] else if style.compact then [' '] else '\n' :: style.margin

/-- The names of a `for`, with commas between them. -/
def namesText (names : List String) : List Char := (", ".intercalate names).toList

mutual

def Expression.write (style : Style) (fresh : Bool) : Expression → List Char × Bool
  | .null => ("null".toList, fresh)
  | .bool b => ((if b then "true" else "false").toList, fresh)
  | .number n => (n.text.toList, fresh)
  | .string s => ('"' :: escapeText s.toList ++ ['"'], fresh)
  | .array items =>
      let (text, fresh') := writeItems style.inner true items
      ('[' :: text ++ style.beforeClose items.isEmpty ++ [']'], fresh')
  | .object items =>
      let (text, fresh') := writeEntries style.inner true items
      ('\x7b' :: text ++ style.beforeBrace items.isEmpty ++ ['\x7d'], fresh')
  | .template text => ('"' :: text.toList ++ ['"'], fresh)
  | .heredoc indented delimiter text =>
      ((if indented then "<<-" else "<<").toList ++ delimiter.toList ++ '\n' :: text.toList ++
        delimiter.toList, fresh)
  | .variable name => (name.toList, fresh)
  | .traversal base steps =>
      let (text, fresh) := base.write style fresh
      let (more, fresh) := writeSteps style fresh steps
      (text ++ more, fresh)
  | .call name arguments spread =>
      let (text, fresh) := writeArguments { style with compact := true } fresh arguments
      (name.toList ++ '(' :: text ++ (if spread then "...)" else ")").toList, fresh)
  | .parens inner =>
      let (text, fresh) := inner.write style fresh
      ('(' :: text ++ [')'], fresh)
  | .conditional condition yes no =>
      let style := { style with compact := true }
      let (a, fresh) := condition.write style fresh
      let (b, fresh) := yes.write style fresh
      let (c, fresh) := no.write style fresh
      (a ++ " ? ".toList ++ b ++ " : ".toList ++ c, fresh)
  | .unary op operand =>
      let (text, fresh) := operand.write style fresh
      (op.text.toList ++ text, fresh)
  | .binary op left right =>
      let (a, fresh) := left.write style fresh
      let (b, fresh) := right.write style fresh
      (a ++ ' ' :: op.text.toList ++ ' ' :: b, fresh)
  | .forArray names source item condition =>
      let (a, fresh) := source.write style fresh
      let (b, fresh) := item.write style fresh
      let (c, fresh) := writeCondition style fresh condition
      ("[for ".toList ++ namesText names ++ " in ".toList ++ a ++ " : ".toList ++ b ++ c ++ [']'],
        fresh)
  | .forObject names source key item grouped condition =>
      let (a, fresh) := source.write style fresh
      let (b, fresh) := key.write style fresh
      let (c, fresh) := item.write style fresh
      let (d, fresh) := writeCondition style fresh condition
      ("\x7bfor ".toList ++ namesText names ++ " in ".toList ++ a ++ " : ".toList ++ b ++
        " => ".toList ++ c ++ (if grouped then "...".toList else []) ++ d ++ ['\x7d'], fresh)

def writeItems (style : Style) (fresh : Bool) : List Expression → List Char × Bool
  | [] => ([], fresh)
  | item :: rest =>
      let (text, after) := item.write style false
      let (more, after) := writeItems style after rest
      (style.beforeItem fresh ++ text ++ more, after)

def writeEntries (style : Style) (fresh : Bool) :
    List (Expression × Expression) → List Char × Bool
  | [] => ([], fresh)
  | (key, value) :: rest =>
      let (a, after) := key.write style false
      let (b, after) := value.write style after
      let (more, after) := writeEntries style after rest
      (style.beforeKey fresh ++ a ++ " = ".toList ++ b ++ more, after)

def writeSteps (style : Style) (fresh : Bool) : List Access → List Char × Bool
  | [] => ([], fresh)
  | step :: rest =>
      let (text, fresh) := step.write style fresh
      let (more, fresh) := writeSteps style fresh rest
      (text ++ more, fresh)

def Access.write (style : Style) (fresh : Bool) : Access → List Char × Bool
  | .attribute name => ('.' :: name.toList, fresh)
  | .position n => ('.' :: (toString n).toList, fresh)
  | .index key =>
      let (text, fresh) := key.write style fresh
      ('[' :: text ++ [']'], fresh)
  | .attributeSplat => (['.', '*'], fresh)
  | .fullSplat => (['[', '*', ']'], fresh)

def writeArguments (style : Style) (fresh : Bool) : List Expression → List Char × Bool
  | [] => ([], fresh)
  | argument :: rest =>
      let (text, fresh) := argument.write style fresh
      let (more, fresh) := writeArguments style fresh rest
      (text ++ (if rest.isEmpty then [] else [',', ' ']) ++ more, fresh)

/-- The condition of a `for`. -/
def writeCondition (style : Style) (fresh : Bool) : Option Expression → List Char × Bool
  | none => ([], fresh)
  | some condition =>
      let (text, fresh) := condition.write style fresh
      (" if ".toList ++ text, fresh)

end

def Expression.text (e : Expression) : List Char :=
  (e.write ⟨false, 0⟩ true).1

end Terralens.Hcl
