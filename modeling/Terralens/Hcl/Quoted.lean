import Terralens.Hcl.Escape
import Terralens.Hcl.Trivia

/-!
# Reading texts between quotes

A text between quotes may span lines. A backslash starts an escape, and an unknown or
incomplete escape is a failure; a doubled dollar or percent sign before a brace is the
sign itself. A text in which a part is inserted is refused here: it is a template.
-/

namespace Terralens.Hcl

def hexValue (ds : List Char) : Nat :=
  ds.foldl (fun n d =>
    16 * n + (if d.isDigit then d.toNat - 48 else if d.isUpper then d.toNat - 55 else d.toNat - 87))
    0

def isHexDigit (c : Char) : Bool :=
  c.isDigit || ('a' ≤ c && c ≤ 'f') || ('A' ≤ c && c ≤ 'F')

def codePoint (count : Nat) : Reader Char := fun s =>
  let ds := s.take count
  if ds.length == count && ds.all isHexDigit && (hexValue ds).isValidChar then
    .read (Char.ofNat (hexValue ds)) ds (s.drop count)
  else .fatal ⟨some ("unicode " ++ toString count ++ "-digit hex code"), [], s⟩

/-- The characters that may stand after a backslash, as a message lists them. -/
def knownEscapes : List String := (['b', 'f', 'n', 'r', 't', 'u', 'U', '\\', '"']).map charName

def escapeSequence : Reader Char := do
  let c ← Reader.any
  if c == 'n' then pure '\n'
  else if c == 'r' then pure '\r'
  else if c == 't' then pure '\t'
  else if c == 'b' then pure '\x08'
  else if c == 'f' then pure '\x0c'
  else if c == '\\' || c == '"' || c == '/' then pure c
  else if c == 'u' then codePoint 4
  else if c == 'U' then codePoint 8
  else ((Reader.refuse).cut).expecting (some "escape sequence") knownEscapes

/-- What stands at the head of a text: an inserted part, a doubled sign before a brace,
  or neither. -/
inductive Mark where
  | inserted
  | doubled (sign : Char)
  | plain
deriving DecidableEq

def markOf : List Char → Mark
  | a :: b :: c :: _ =>
      if a == b && startsSequence b c then .doubled a
      else if startsSequence a b then .inserted else .plain
  | [a, b] => if startsSequence a b then .inserted else .plain
  | _ => .plain

/-- The characters of a quoted text up to its closing quote or an inserted part, which
  are left; is refused at the end of the text. -/
def quotedCharsUpTo : Nat → Reader (List Char)
  | 0 => Reader.refuse
  | fuel + 1 => do
      let s ← Reader.ahead
      match markOf s with
      | .inserted => pure []
      | .doubled sign =>
          Reader.word [sign, sign, '\x7b']
          let more ← quotedCharsUpTo fuel
          pure (sign :: '\x7b' :: more)
      | .plain =>
          let c ← Reader.peek
          if c == '"' then pure []
          else if c == '\\' then
            Reader.char '\\'
            let c ← escapeSequence
            let more ← quotedCharsUpTo fuel
            pure (c :: more)
          else
            let c ← Reader.any
            let more ← quotedCharsUpTo fuel
            pure (c :: more)

/-- The characters of a quoted text up to its closing quote or an inserted part. -/
def quotedChars : Reader (List Char) := fun s => quotedCharsUpTo (s.length + 1) s

def quotedText : Reader String :=
  Reader.shown (fun text => '"' :: escapeText text.toList ++ ['"']) (do
    Reader.char '"'
    let text ← quotedChars
    Reader.char '"'
    pure (String.ofList text))

end Terralens.Hcl
