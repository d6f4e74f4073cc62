import Terralens.Text.Basic

/-!
# Outlines

Where in the lines of a text a block or an assignment is written. A block is found by its
header: a line that holds, after white space, its type and labels, each label between
quotes or bare, and then an opening brace or nothing. An assignment is found by its name
at the start of a line with an equals sign behind it. A search goes forward from a given
line, so that equal headers are found one after the other.
-/

namespace Terralens.Outline

/-- What may be left of a text after white space at its start. -/
def afterBlanks : List Char → List (List Char)
  | [] => [[]]
  | c :: rest => if Text.isBlank c then (c :: rest) :: afterBlanks rest else [c :: rest]

def afterQuote (s : List Char) : List (List Char) :=
  match s with
  | '"' :: rest => [s, rest]
  | _ => [s]

/-- What may be left of a text after white space and a label. -/
def afterLabel (label s : List Char) : List (List Char) :=
  match s with
  | [] => []
  | c :: rest =>
      -- More white space, and a quote on either side, may be taken or left: every way is kept.
      if Text.isBlank c then
        (((afterBlanks rest).flatMap afterQuote).filterMap (Text.afterStart? label)).flatMap
          afterQuote
      else []

/-- Removes texts of which another one has the same length. The remainders of one text are
  equal when their lengths are. -/
def distinct (texts : List (List Char)) : List (List Char) :=
  texts.foldr (fun t kept => if kept.any (·.length == t.length) then kept else t :: kept) []

def afterLabels (labels : List (List Char)) (s : List Char) : List (List Char) :=
  labels.foldl (fun rests label => distinct (rests.flatMap (afterLabel label))) [s]

/-- Whether a text holds nothing before a brace, or nothing at all, but white space. -/
def opensBody (s : List Char) : Bool :=
  match Text.trimLeft s with
  | [] => true
  | c :: _ => c == '\x7b'

/-- Whether a line is the header of a block: its type and labels, and then an opening brace or
  nothing (`find_block`). -/
def isHeader (type : String) (labels : List String) (line : List Char) : Bool :=
  match Text.afterStart? type.toList (Text.trimLeft line) with
  | none => false
  | some rest => (afterLabels (labels.map String.toList) rest).any opensBody

/-- Whether a line begins with an assignment to a name (`find_assignment`), with no white space
  before the name. -/
def isAssignment (name : String) (line : List Char) : Bool :=
  match Text.afterStart? name.toList line with
  | none => false
  | some rest => (Text.trimLeft rest).head? == some '='

/-- The number of the first line that satisfies a test, from line `start` on (`find`). Lines count
  from one, and a search from line zero is one from the first line. -/
def findLine (lines : List (List Char)) (start : Nat) (p : List Char → Bool) : Option Nat :=
  ((lines.drop (start - 1)).findIdx? p).map (· + (start - 1) + 1)

/-- The line of the header of a block, from line `start` on. -/
def findHeader (lines : List (List Char)) (type : String) (labels : List String) (start : Nat) :
    Option Nat :=
  findLine lines start (isHeader type labels)

/-- The line of an assignment, from line `start` on. -/
def findAssignment (lines : List (List Char)) (name : String) (start : Nat) : Option Nat :=
  findLine lines start (isAssignment name)

/-- Where the next search starts after one from `start` on. -/
def next (start : Nat) : Option Nat → Nat
  | some line => line + 1
  | none => start

end Terralens.Outline
