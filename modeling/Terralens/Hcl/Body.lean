import Terralens.Hcl.Grammar

/-!
# Bodies

A body is a sequence of attributes `key = expression` and blocks `type "label" { … }`.
Each stands on lines of its own; the body of a block may also hold one attribute on the
block's own line. No two attributes of one body have the same key.
-/

namespace Terralens.Hcl

inductive Structure where
  | attribute (key : String) (value : Expression)
  | block (type : String) (labels : List String) (body : List Structure)

abbrev Body := List Structure

def Structure.key? : Structure → Option String
  | .attribute key _ => some key
  | .block .. => none

/-- Fails at the key of an attribute that its body has already. -/
def failRedefined {α : Type} (start : List Char) : Reader α := fun _ =>
  .fatal ⟨some "attribute", ["unique attribute key; found redefined attribute"], start⟩

/-- The rest of an attribute after its key and the blanks behind it. -/
def attributeEnd (key : String) : Reader Structure := do
  Reader.char '='
  sp
  let value ← expression
  pure (.attribute key value)

def lineAttribute : Reader Structure := do
  let key ← identifier
  sp
  ((Reader.char '=').cut).expecting (some "attribute") [charName '=']
  sp
  let value ← expression
  pure (.attribute key value)

def closeBody : Reader Unit :=
  ((Reader.char '\x7d').cut).expecting (some "block body")
    [charName '\x7d', charName '\n', "identifier"]

def openingLine : Reader Unit := do
  sp
  let _ ← Reader.optional lineComment
  lineEnd

def label : Reader String := do
  let text ← Reader.orElse quotedText identifier
  sp
  pure text

def structureEnd : Reader Unit := do
  sp
  let _ ← Reader.optional lineComment
  ((Reader.orElse lineEnd endOfText).cut).expecting none [charName '\n', "eof"]

/-- The body of a block whose parts are read by `body`. -/
def blockBody (body : Reader Body) : Reader Body := do
  Reader.char '\x7b'
  Reader.orElse
    (do
      openingLine
      let parts ← body
      closeBody
      pure parts)
    (do
      sp
      let part ← Reader.optional lineAttribute
      sp
      closeBody
      pure part.toList)

/-- One part of a body in which the given keys are defined already. -/
def structureWith (body : Reader Body) (keys : List String) : Reader Structure := do
  let start ← Reader.ahead
  let name ← identifier
  sp
  let c ← Reader.peek
  if c == '=' then
    -- The key is tested before the value is read, so a later fault in the value is not reported.
    if keys.contains name then failRedefined start else attributeEnd name
  else if c == '\x7b' then
    let parts ← blockBody body
    pure (.block name [] parts)
  else if c == '"' || Text.Property.isIdentifierStart c then
    let labels ← Reader.many label
    let s ← Reader.ahead
    match s with
    | '\x7b' :: _ =>
        let parts ← blockBody body
        pure (.block name labels parts)
    | _ =>
        requireChar '\x7b'
        Reader.refuse
  else
    ((Reader.refuse).cut).expecting (some "structure")
      [charName '\x7b', charName '=', charName '"', "identifier"]

/-- The parts of a body, at most `fuel` of them, in which the given keys are defined
  already. -/
def structuresUpTo (body : Reader Body) : Nat → List String → Reader Body
  | 0, _ => pure []
  | fuel + 1, keys =>
      Reader.orElse
        (do
          ws
          let part ← structureWith body keys
          structureEnd
          let more ← structuresUpTo body fuel (part.key?.toList ++ keys)
          pure (part :: more))
        (pure [])

/-- A body with blocks nested at most `fuel` deep. -/
def bodyUpTo : Nat → Reader Body
  | 0 => Reader.refuse
  | fuel + 1 => fun s =>
      (do
        let parts ← structuresUpTo (bodyUpTo fuel) (s.length + 1) []
        ws
        pure parts : Reader Body) s

/-- The body of a whole text; what is left over is an error where it begins. -/
def readBody (s : List Char) : Except Failure Body :=
  match bodyUpTo (s.length + 1) s with
  | .read body _ [] => .ok body
  | .read _ _ rest => .error ⟨none, [], rest⟩
  | .refused why => .error why
  | .fatal why => .error why

end Terralens.Hcl
