import Terralens.Hcl.Reader
import Terralens.Text.Property.Identifier

/-!
# Blanks, comments and identifiers

Between the parts of a line stand blanks, tabs and comments in `/* */`; where line breaks
are allowed, they and comments up to the line's end stand there, too. A comment without
its end is no comment.
-/

namespace Terralens.Hcl

/-- What follows the end `*/` of a comment. -/
def afterComment : List Char → Option (List Char)
  | '*' :: '/' :: rest => some rest
  | _ :: rest => afterComment rest
  | [] => none

def afterLine (s : List Char) : List Char := s.dropWhile (· != '\n')

/-- What follows the blanks and comments at the start of a text, at most `fuel` of them. -/
def skipTrivia (breaks : Bool) : Nat → List Char → List Char
  | 0, s => s
  | fuel + 1, s =>
      match s with
      | [] => []
      | c :: rest =>
          if c == ' ' || c == '\t' || (breaks && (c == '\n' || c == '\r')) then
            skipTrivia breaks fuel rest
          else if breaks && c == '#' then skipTrivia breaks fuel (afterLine rest)
          else if c == '/' then
            match rest with
            | '*' :: inside =>
                match afterComment inside with
                | some after => skipTrivia breaks fuel after
                | none => s
            | '/' :: inside => if breaks then skipTrivia breaks fuel (afterLine inside) else s
            | _ => s
          else s

def trivia (breaks : Bool) : Reader Unit := fun s =>
  let rest := skipTrivia breaks s.length s
  .read () (s.take (s.length - rest.length)) rest

def sp : Reader Unit := trivia false

def ws : Reader Unit := trivia true

def lineComment : Reader Unit := do
  Reader.orElse (Reader.char '#') (Reader.word ['/', '/'])
  let _ ← Reader.span (· != '\n')
  pure ()

def lineEnd : Reader Unit := Reader.orElse (Reader.char '\n') (Reader.word ['\r', '\n'])

def endOfText : Reader Unit := fun s =>
  match s with
  | [] => .read () [] []
  | _ :: _ => .refused ⟨none, [], s⟩

def spaced {α : Type} (p : Reader α) : Reader α := do
  ws
  let a ← p
  ws
  pure a

def identifier : Reader String := do
  let c ← Reader.peek
  if Text.Property.isIdentifierStart c then
    let name ← Reader.span Text.Property.isIdentifierContinue
    pure (String.ofList name)
  else Reader.refuse

def requireIdentifier : Reader String := (identifier.cut).expecting none ["identifier"]

end Terralens.Hcl
