/-!
# Arguments

What a command can be given: options with a short and a long name, and values told by their
place. Each has an effect and, where it takes a value, a form the value must have.
-/

namespace Terralens.CommandLine

inductive UsageError where
  | help
  | version
  | missing
  /-- A value is empty or none of those that may be given. -/
  | badValue
  | badForm
  /-- An option that may be given once is given again. -/
  | repeated
  | unknown
  /-- A value is given to an option that takes none. -/
  | needlessValue
  /-- A word stands where a command is expected and is none. -/
  | unknownCommand
deriving DecidableEq, Repr, Inhabited

def UsageError.exitCode : UsageError → Nat
  | .help => 0
  | .version => 0
  | _ => 2

inductive Effect where
  | set
  | collect
  | enable
  | count
  | help
  | version
deriving DecidableEq, Repr

inductive ValueForm where
  | text
  | path
  | oneOf (names : List String)
  | natural
deriving DecidableEq, Repr

/-- The number that decimal digits write, below `2 ^ 64`; a plus sign may come before. -/
def natural? (s : String) : Option Nat :=
  let digits := match s.toList with
    | '+' :: rest => rest
    | cs => cs
  let n := digits.foldl (fun n c => n * 10 + (c.toNat - '0'.toNat)) 0
  if !digits.isEmpty && digits.all Char.isDigit && n < Nat.pow 2 64 then some n else none

def ValueForm.check (value : String) : ValueForm → Except UsageError Unit
  | .text => .ok ()
  | .path => if value.isEmpty then .error .badValue else .ok ()
  | .oneOf names => if names.contains value then .ok () else .error .badValue
  | .natural => if (natural? value).isSome then .ok () else .error .badForm

structure Argument where
  name : String
  short : Option Char := none
  long : Option String := none
  effect : Effect := .set
  form : ValueForm := .text
  required : Bool := false
deriving DecidableEq, Repr

def Argument.takesValue (a : Argument) : Bool := a.effect == .set || a.effect == .collect

/-- An option with a value; its long name is the name with which it is looked up. -/
def Argument.option (name : String) (short : Option Char) (form : ValueForm) : Argument :=
  { name := name, short := short, long := some name, form := form }

def Argument.switch (name : String) (short : Option Char) (effect : Effect) : Argument :=
  { name := name, short := short, long := some name, effect := effect }

def Argument.value (name : String) (form : ValueForm) (required : Bool) : Argument :=
  { name := name, form := form, required := required }

/-- What a command can be given: options, values in their order, and the words that name
  commands of its own, each with the name of the command. -/
structure Usage where
  options : List Argument
  values : List Argument
  commands : List (String × String) := []
deriving Repr

end Terralens.CommandLine
