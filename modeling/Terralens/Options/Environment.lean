import Terralens.Text.Basic

/-!
# Environments

The variables a process is started with, and the texts in which they are named as `$NAME`
or `${NAME}`. A variable without a value stays as it is written; a value is never looked at
again.
-/

namespace Terralens

abbrev Environment := List (String × String)

def Environment.value? (env : Environment) (name : String) : Option String := List.lookup name env

def startsVariable (c : Char) : Bool := c.isAlpha || c == '_'

def continuesVariable (c : Char) : Bool := c.isAlphanum || c == '_'

/-- The variable named behind a dollar sign, and how many characters name it. Between braces any
  characters but a closing brace are a name, without them only those of a word. -/
def variableAt (s : List Char) : Option (String × Nat) :=
  match s with
  | '\x7b' :: rest =>
      let name := rest.takeWhile (· != '\x7d')
      -- The second test says that no closing brace follows; then the dollar sign stands for itself.
      if name.isEmpty || rest.length ≤ name.length then none
      else some (String.ofList name, name.length + 2)
  | c :: rest =>
      if startsVariable c then
        let name := c :: rest.takeWhile continuesVariable
        some (String.ofList name, name.length)
      else none
  | [] => none

/-- Expands the variables in a text of which the first `skip` characters belong to the one before.
  What a variable stands for is not read again. -/
def expandFrom (value : String → Option String) : Nat → List Char → List Char
  | _, [] => []
  | skip + 1, _ :: rest => expandFrom value skip rest
  | 0, c :: rest =>
      match if c == '$' then variableAt rest else none with
      | some (name, count) =>
          ((value name).map String.toList).getD (c :: rest.take count) ++ expandFrom value count rest
      | none => c :: expandFrom value 0 rest

/-- A text with its variables replaced by their values (`expand_env_vars`). -/
def expandVariables (value : String → Option String) (text : String) : String :=
  String.ofList (expandFrom value 0 text.toList)

end Terralens
