import Terralens.CommandLine.Argument

/-!
# Matching words with arguments

The words of a command line are read in order. A word of a short or long form names
options, the word after an option that takes a value is the value, two dashes end the
options, and every other word is the next value by its place or names a command, which
takes the words that follow. An argument takes effect when the next one begins, so that
what was wrong first is what is reported.
-/

namespace Terralens.CommandLine

/-- The arguments that were given and their values, one value per time for those without. -/
abbrev Matches := List (String × List String)

namespace Matches

def values (m : Matches) (name : String) : List String := (List.lookup name m).getD []

def has (m : Matches) (name : String) : Bool := (List.lookup name m).isSome

def value? (m : Matches) (name : String) : Option String := (m.values name).head?

def add (m : Matches) (name value : String) : Matches := (name, m.values name ++ [value]) :: m

def give (m : Matches) (a : Argument) (value : Option String) : Except UsageError Matches :=
  match a.effect, value with
  | .set, some v => do
      if m.has a.name then throw .repeated
      a.form.check v
      pure (m.add a.name v)
  | .collect, some v => do
      a.form.check v
      pure (m.add a.name v)
  | .set, none => .error .badValue
  | .collect, none => .error .badValue
  | .enable, _ => if m.has a.name then .error .repeated else .ok (m.add a.name "")
  | .count, _ => .ok (m.add a.name "")
  | .help, _ => .error .help
  | .version, _ => .error .version

end Matches

/-- How far the reading of the words has come: what took effect, the argument that is to take
  effect next with its value, whether the next word is its value, whether only values
  follow, and the number of values read by their place. -/
structure Progress where
  taken : Matches := []
  pending : Option (Argument × Option String) := none
  awaiting : Bool := false
  onlyValues : Bool := false
  place : Nat := 0
deriving Inhabited

namespace Progress

def settle (p : Progress) : Except UsageError Progress :=
  match p.pending with
  | none => .ok p
  | some (a, value) => (p.taken.give a value).map fun m => { p with taken := m, pending := none }

/-- An argument takes effect at once, after the pending one. -/
def give (p : Progress) (a : Argument) (value : Option String) : Except UsageError Progress := do
  let p ← p.settle
  let m ← p.taken.give a value
  pure { p with taken := m, awaiting := false }

/-- An option is named whose value is the next word. -/
def await (p : Progress) (a : Argument) : Except UsageError Progress := do
  let p ← p.settle
  pure { p with pending := some (a, none), awaiting := true }

end Progress

def afterEquals : List Char → List Char
  | '=' :: rest => rest
  | s => s

/-- Reads the short names behind a dash; what follows one that takes a value is the value. -/
def readShort (u : Usage) : List Char → Progress → Except UsageError Progress
  | [], p => .ok p
  | c :: rest, p =>
      match u.options.find? (·.short == some c) with
      | none => .error .unknown
      | some a =>
          if a.takesValue then
            if rest.isEmpty then p.await a
            else p.give a (some (String.ofList (afterEquals rest)))
          else (p.give a none).bind (readShort u rest)

def readLong (u : Usage) (word : List Char) (p : Progress) : Except UsageError Progress :=
  let name := String.ofList (word.takeWhile (· != '='))
  let value := match word.dropWhile (· != '=') with
    | [] => none
    | _ :: rest => some (String.ofList rest)
  match u.options.find? (·.long == some name) with
  | none => .error .unknown
  | some a =>
      match a.takesValue, value with
      | true, none => p.await a
      | true, some v => p.give a (some v)
      | false, none => p.give a none
      | false, some _ => .error .needlessValue

def refusal (u : Usage) (p : Progress) (word : String) : UsageError :=
  if u.commands.isEmpty || (p.onlyValues && (List.lookup word u.commands).isSome) then .unknown
  else .unknownCommand

def readValue (u : Usage) (word : String) (p : Progress) : Except UsageError Progress :=
  match p.awaiting && !p.onlyValues, p.pending with
  | true, some (a, _) => .ok { p with pending := some (a, some word), awaiting := false }
  | _, _ =>
      match u.values[p.place]? with
      | some a => do
          let p ← p.settle
          pure { p with pending := some (a, some word), awaiting := false, place := p.place + 1 }
      | none => .error (refusal u p word)

def readWord (u : Usage) (word : String) (p : Progress) : Except UsageError Progress :=
  if p.onlyValues then readValue u word p
  else
    match word.toList with
    | ['-', '-'] => .ok { p with onlyValues := true }
    | '-' :: '-' :: name => readLong u name p
    | '-' :: c :: names => readShort u (c :: names) p
    | _ => readValue u word p

def command? (u : Usage) (p : Progress) (word : String) : Option String :=
  if p.onlyValues || p.awaiting then none else List.lookup word u.commands

/-- Reads words up to their end or to one that names a command, and gives the command with
  the words that follow. -/
def readWords (u : Usage) :
    List String → Progress → Except UsageError (Progress × Option (String × List String))
  | [], p => .ok (p, none)
  | word :: rest, p =>
      match command? u p word with
      | some name => .ok (p, some (name, rest))
      | none => (readWord u word p).bind (readWords u rest)

/-- What was given once all words are read: the last argument takes effect, and no required
  value may be missing. Where the settings file is not named, the environment may name it. -/
def complete (u : Usage) (settings : Option String) (p : Progress) : Except UsageError Matches := do
  let p ← p.settle
  if !p.taken.has "config" && settings == some "" then throw .badValue
  if u.values.any fun a => a.required && !p.taken.has a.name then throw .missing
  pure p.taken

end Terralens.CommandLine
