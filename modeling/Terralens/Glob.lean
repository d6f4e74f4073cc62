/-!
# Name patterns

Patterns for the names of files: a question mark stands for any character, an asterisk for
any text, brackets for one character of a class, and two asterisks, alone between slashes,
for any directories. All else stands for itself. A pattern that breaks these rules is none.
-/

namespace Terralens.Glob

structure CharRange where
  first : Char
  last : Char
deriving DecidableEq, Repr

def CharRange.holds (r : CharRange) (c : Char) : Bool := r.first ≤ c && c ≤ r.last

inductive Token where
  | char (c : Char)
  | anyChar
  | oneOf (ranges : List CharRange)
  | noneOf (ranges : List CharRange)
  | anyText
  | anyDirectories
deriving DecidableEq, Repr

def Token.accepts (c : Char) : Token → Bool
  | .char c' => c == c'
  | .anyChar => true
  | .oneOf ranges => ranges.any (·.holds c)
  | .noneOf ranges => !ranges.any (·.holds c)
  | .anyText => false
  | .anyDirectories => false

/-- A text and all that is left of it after some of its characters. -/
def remainders : List Char → List (List Char)
  | [] => [[]]
  | c :: rest => (c :: rest) :: remainders rest

/-- What is left of a text after each of its slashes, and nothing. -/
def directoryRemainders : List Char → List (List Char)
  | [] => [[]]
  | c :: rest => if c == '/' then rest :: directoryRemainders rest else directoryRemainders rest

def matchesFrom : List Token → List Char → Bool
  | [], s => s.isEmpty
  | .anyText :: rest, s => (remainders s).any (matchesFrom rest)
  | .anyDirectories :: rest, s =>
      matchesFrom rest s || (directoryRemainders s).any (matchesFrom rest)
  | _ :: _, [] => false
  | t :: rest, c :: s => t.accepts c && matchesFrom rest s

/-- The ranges between brackets: `a-z` from one character to another, any other character
  alone. -/
def rangesOf : List Char → List CharRange
  | a :: '-' :: b :: rest => ⟨a, b⟩ :: rangesOf rest
  | c :: rest => ⟨c, c⟩ :: rangesOf rest
  | [] => []

/-- The characters up to a closing bracket, the first of which may itself be one, and what
  follows it. -/
def bracketed? : List Char → Option (List Char × List Char)
  | [] => none
  | first :: rest =>
      match rest.dropWhile (· != ']') with
      | [] => none
      | _ :: after => some (first :: rest.takeWhile (· != ']'), after)

/-- The class behind an opening bracket, and what follows it. -/
def class? : List Char → Option (Token × List Char)
  | '!' :: rest => (bracketed? rest).map fun (inside, after) => (.noneOf (rangesOf inside), after)
  | rest => (bracketed? rest).map fun (inside, after) => (.oneOf (rangesOf inside), after)

/-- The token a pattern goes on with, the number of characters that write it after the
  first, and whether two asterisks may follow. `afterSlash` tells whether they may stand
  here. -/
def token? (afterSlash : Bool) (c : Char) (rest : List Char) : Option (Token × Nat × Bool) :=
  if c == '?' then some (.anyChar, 0, false)
  else if c == '[' then
    (class? rest).map fun (t, after) => (t, rest.length - after.length, false)
  else if c == '*' then
    match rest with
    | '*' :: after =>
        match after with
        -- Two asterisks must fill the whole space between slashes or the ends of the pattern.
        | [] => if afterSlash then some (.anyDirectories, 1, false) else none
        | '/' :: _ => if afterSlash then some (.anyDirectories, 2, true) else none
        | _ :: _ => none
    | _ => some (.anyText, 0, false)
  else some (.char c, 0, c == '/')

/-- The tokens of a pattern of which the first `skip` characters belong to the token
  before. -/
def tokensFrom (afterSlash : Bool) : Nat → List Char → Option (List Token)
  | _, [] => some []
  | skip + 1, _ :: rest => tokensFrom afterSlash skip rest
  | 0, c :: rest =>
      (token? afterSlash c rest).bind fun (t, skip, afterSlash) =>
        (tokensFrom afterSlash skip rest).map (t :: ·)

/-- The tokens of a pattern; `none` for a text that is no pattern. -/
def tokens? (pattern : String) : Option (List Token) := tokensFrom true 0 pattern.toList

/-- Whether a pattern stands for a name. A text that is no pattern stands for none. -/
def standsFor (pattern name : String) : Bool :=
  match tokens? pattern with
  | some tokens => matchesFrom tokens name.toList
  | none => false

end Terralens.Glob
