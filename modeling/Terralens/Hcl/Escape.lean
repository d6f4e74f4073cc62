import Terralens.Text.Basic

/-!
# Escapes of texts and templates

Inside a template, a dollar or percent sign before an opening brace starts an inserted
part; doubled, it stands for itself. `escapeTemplate` doubles those signs,
`unescapeTemplate` undoes it, and `hasSequence` tells whether a template has an inserted
part. Texts between quotes have backslash escapes besides.
-/

namespace Terralens.Hcl

def startsSequence (a b : Char) : Bool := (a == '$' || a == '%') && b == '\x7b'

/-- Doubles every dollar or percent sign that stands before an opening brace. -/
def escapeTemplate : List Char → List Char
  | [] => []
  | [c] => [c]
  | a :: b :: rest =>
      if startsSequence a b then a :: a :: escapeTemplate (b :: rest)
      else a :: escapeTemplate (b :: rest)

/-- Whether a template has an inserted part: a sign before a brace, unless the same sign stands
  before it as well (`has_template_sequence`). Signs are taken in pairs from the left. -/
def hasSequence : List Char → Bool
  | a :: b :: c :: rest =>
      -- A doubled sign before a brace is literal; all three characters are passed over together.
      if a == b && startsSequence b c then hasSequence rest
      else startsSequence a b || hasSequence (b :: c :: rest)
  | [a, b] => startsSequence a b
  | _ => false

/-- Undoes the doubling, of the dollar signs first and then of the percent signs
  (`unescape_template`). -/
def unescapeTemplate (s : List Char) : List Char :=
  Text.replaceAll ['%', '%', '\x7b'] ['%', '\x7b']
    (Text.replaceAll ['$', '$', '\x7b'] ['$', '\x7b'] s)

def controlDigits (n : Nat) : List Char :=
  let digits := Nat.toDigits 16 n
  List.replicate (4 - digits.length) '0' ++ digits

def escapeChar (c : Char) : List Char :=
  if c = '"' then ['\\', '"']
  else if c = '\\' then ['\\', '\\']
  else if c = '\n' then ['\\', 'n']
  else if c = '\r' then ['\\', 'r']
  else if c = '\t' then ['\\', 't']
  else if c = '\x08' then ['\\', 'b']
  else if c = '\x0c' then ['\\', 'f']
  else if c.toNat < 32 then '\\' :: 'u' :: controlDigits c.toNat
  else [c]

def escapeText (s : List Char) : List Char := escapeTemplate (s.flatMap escapeChar)

end Terralens.Hcl
