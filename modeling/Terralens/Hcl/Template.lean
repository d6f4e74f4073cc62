import Terralens.Hcl.Expression
import Terralens.Hcl.Indentation
import Terralens.Hcl.Quoted

/-!
# Reading templates

A template consists of literal parts, interpolations `${ … }` and directives
`%{ if … } … %{ endif }` and `%{ for … } … %{ endfor }`; a `~` beside a brace belongs to
the brace. Between quotes, literal parts have escapes. In the body of a directive and in a
template of whole lines they are raw, except for doubled signs before a brace.

Everything here is given the reader `nested` of the expressions inside.
-/

namespace Terralens.Hcl

open Reader

/-- What an expression may hold where it stands: line breaks between its parts, and a
  conditional. -/
structure Mode where
  breaks : Bool
  conditional : Bool
deriving DecidableEq

def Mode.line : Mode := ⟨false, true⟩

def Mode.open : Mode := ⟨true, true⟩

abbrev Nested := Mode → Reader Expression

def stripMark : Reader (Option Unit) := Reader.optional (Reader.char '~')

def control {α : Type} (start : List Char) (inner : Reader α) : Reader α := do
  Reader.word start
  let _ ← stripMark
  let a ← inner
  let _ ← stripMark
  requireChar '\x7d'
  pure a

def interpolation (nested : Nested) : Reader Unit :=
  control ['$', '\x7b'] (do let _ ← spaced (nested .open); pure ())

/-- The start of an `if`. -/
def ifStart (nested : Nested) : Reader Unit :=
  control ['%', '\x7b'] (do
    ws
    Reader.word "if".toList
    let _ ← spaced (nested .line)
    pure ())

/-- The start of a `for`. -/
def forStart (nested : Nested) : Reader Unit :=
  control ['%', '\x7b'] (do
    ws
    Reader.word "for".toList
    let _ ← spaced requireIdentifier
    let _ ← Reader.optional (do Reader.char ','; spaced requireIdentifier)
    requireWord "in".toList
    let _ ← spaced (nested .line)
    pure ())

/-- The `else` of an `if`. -/
def elseMark : Reader Unit := control ['%', '\x7b'] (spaced (Reader.word "else".toList))

def endMark (name : List Char) : Reader Unit := control ['%', '\x7b'] (spaced (requireWord name))

/-- Raw characters up to an inserted part, which is left; is refused at the end of the
  text. -/
def rawCharsUpTo : Nat → Reader Unit
  | 0 => Reader.refuse
  | fuel + 1 => do
      let s ← Reader.ahead
      match markOf s with
      | .inserted => pure ()
      | .doubled sign =>
          Reader.word [sign, sign, '\x7b']
          rawCharsUpTo fuel
      | .plain =>
          let _ ← Reader.any
          rawCharsUpTo fuel

def rawLiteral : Reader Unit := fun s =>
  match markOf s with
  | .inserted => .refused ⟨none, [], s⟩
  | _ => rawCharsUpTo (s.length + 1) s

/-- A directive whose bodies are read by `body`. -/
def directiveAround (nested : Nested) (body : Reader Unit) : Reader Unit :=
  Reader.orElse
    (do
      ifStart nested
      body
      let _ ← Reader.optional (do elseMark; body)
      endMark "endif".toList)
    (do
      forStart nested
      body
      endMark "endfor".toList)

/-- The body of a directive, in which directives are nested at most `fuel` deep. -/
def rawTemplate (nested : Nested) : Nat → Reader Unit
  | 0 => Reader.refuse
  | fuel + 1 => do
      let _ ← Reader.many (Reader.orElse rawLiteral (Reader.orElse (interpolation nested)
        (directiveAround nested (rawTemplate nested fuel))))
      pure ()

def directive (nested : Nested) : Reader Unit := fun s =>
  directiveAround nested (rawTemplate nested (s.length + 1)) s

def insertedPart (nested : Nested) : Reader (List Char) := do
  let (_, source) ← Reader.withSource (Reader.orElse (interpolation nested) (directive nested))
  pure source

/-- A literal part between quotes, at least one character. Its text is shown escaped. -/
def quotedPart : Reader (List Char) := Reader.shown escapeText (do
  let text ← quotedChars
  if text.isEmpty then Reader.refuse else pure text)

/-- A template between quotes. Its text has literal parts with all escapes resolved,
  except that signs before a brace are doubled. -/
def quotedTemplate (nested : Nested) : Reader (List Char) := do
  Reader.char '"'
  let parts ← Reader.many (Reader.orElse
    (do let text ← quotedPart; pure (escapeTemplate text)) (insertedPart nested))
  Reader.char '"'
  pure parts.flatten

/-- Whether a text starts with the line that ends a template: blanks and the delimiter. -/
def startsDelimiter (delimiter : List Char) (s : List Char) : Bool :=
  delimiter.isPrefixOf (s.dropWhile fun c => c == ' ' || c == '\t')

/-- The line break before the delimiter, if the text starts with it. -/
def breakBeforeDelimiter (delimiter : List Char) : List Char → Option (List Char)
  | '\n' :: rest => if startsDelimiter delimiter rest then some ['\n'] else none
  | '\r' :: '\n' :: rest => if startsDelimiter delimiter rest then some ['\r', '\n'] else none
  | _ => none

/-- Raw characters of a template of whole lines up to an inserted part or to the line
  break before the delimiter; the line break is read, too. -/
def lineCharsUpTo (delimiter : List Char) : Nat → Reader Unit
  | 0 => Reader.refuse
  | fuel + 1 => do
      let s ← Reader.ahead
      match breakBeforeDelimiter delimiter s with
      | some br => Reader.word br
      | none =>
          match markOf s with
          | .inserted => pure ()
          | .doubled sign =>
              Reader.word [sign, sign, '\x7b']
              lineCharsUpTo delimiter fuel
          | .plain =>
              let _ ← Reader.any
              lineCharsUpTo delimiter fuel

/-- A literal part of a template of whole lines, at least one character. -/
def lineLiteral (delimiter : List Char) : Reader (List Char) := fun s =>
  match markOf s with
  | .inserted => .refused ⟨none, [], s⟩
  | _ => (do
      let (_, source) ← Reader.withSource (lineCharsUpTo delimiter (s.length + 1))
      pure source : Reader (List Char)) s

/-- The parts of a template of whole lines up to the line with its delimiter. -/
def linePieces (nested : Nested) (delimiter : List Char) : Nat → Reader (List Piece)
  | 0 => Reader.refuse
  | fuel + 1 =>
      Reader.orElse
        (do
          let text ← lineLiteral delimiter
          let s ← Reader.ahead
          if endsLine text && startsDelimiter delimiter s then pure [.literal text]
          else
            let more ← linePieces nested delimiter fuel
            pure (.literal text :: more))
        (do
          let text ← insertedPart nested
          let more ← linePieces nested delimiter fuel
          pure (.inserted text :: more))

/-- The blanks and the delimiter at the end of a template of whole lines. -/
def delimiterLine (delimiter : List Char) : Reader Unit := do
  let _ ← Reader.span fun c => c == ' ' || c == '\t'
  Reader.word delimiter

/-- The content of a template of whole lines and its delimiter. Content without a line
  break before the delimiter is empty. -/
def lineContent (nested : Nested) (delimiter : List Char) : Reader (List Piece) := fun s =>
  Reader.orElse
    (do
      let pieces ← linePieces nested delimiter (s.length + 1)
      delimiterLine delimiter
      pure pieces)
    (Reader.orElse (do delimiterLine delimiter; pure [])
      (((Reader.refuse).cut).expecting none ["heredoc end delimiter"])) s

def heredoc (nested : Nested) : Reader Expression := do
  Reader.word ['<', '<']
  let dash ← Reader.optional (Reader.char '-')
  let delimiter ← requireIdentifier
  ((lineEnd).cut).expecting none [charName '\n']
  let pieces ← lineContent nested delimiter.toList
  let (indented, text) := if dash.isSome then dedent pieces else (false, pieces.flatMap Piece.text)
  pure (.heredoc indented delimiter (String.ofList text))

end Terralens.Hcl
