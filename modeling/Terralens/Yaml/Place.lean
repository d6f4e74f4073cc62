/-!
# Places in a YAML text

A place is what is left of the text, with the line, the column and the number of characters
before it. Line breaks are carriage returns, line feeds, both together, and three breaks
outside ASCII.
-/

namespace Terralens.Yaml

structure Place where
  rest : List Char
  index : Nat
  line : Nat
  column : Nat
deriving Repr

def isBreak (c : Char) : Bool :=
  c == '\n' || c == '\r' || c == '\u0085' || c == '\u2028' || c == '\u2029'

def isBlank (c : Char) : Bool := c == ' ' || c == '\t'

def endsWord : List Char → Bool
  | [] => true
  | c :: _ => isBlank c || isBreak c

def startsBlank : List Char → Bool
  | [] => false
  | c :: _ => isBlank c

def startsBreak : List Char → Bool
  | [] => false
  | c :: _ => isBreak c

def isAllowed (c : Char) : Bool :=
  let n := c.toNat
  n == 0x9 || n == 0xA || n == 0xD || (0x20 ≤ n && n ≤ 0x7E) || n == 0x85 ||
    (0xA0 ≤ n && n ≤ 0xD7FF) || (0xE000 ≤ n && n ≤ 0xFFFD && n != 0xFEFF) || 0x10000 ≤ n

/-- What a line break counts as: a line feed, except for the two Unicode separators. -/
def breakText : List Char → List Char
  | '\u2028' :: _ => ['\u2028']
  | '\u2029' :: _ => ['\u2029']
  | _ => ['\n']

namespace Place

def next (p : Place) : Place :=
  match p.rest with
  | [] => p
  | _ :: rest => ⟨rest, p.index + 1, p.line, p.column + 1⟩

def skip : Nat → Place → Place
  | 0, p => p
  | n + 1, p => skip n p.next

def nextLine (p : Place) : Place :=
  match p.rest with
  | '\r' :: '\n' :: rest => ⟨rest, p.index + 2, p.line + 1, 0⟩
  | _ :: rest => ⟨rest, p.index + 1, p.line + 1, 0⟩
  | [] => p

def atDocumentMark (p : Place) : Bool :=
  p.column == 0 &&
    match p.rest with
    | '-' :: '-' :: '-' :: rest => endsWord rest
    | '.' :: '.' :: '.' :: rest => endsWord rest
    | _ => false

end Place

/-- What stands between two words of a scalar: blanks, or a first line break and those
  after it. -/
structure Gap where
  blanks : List Char
  first : Option (List Char)
  more : List Char

def Gap.none : Gap := ⟨[], Option.none, []⟩

def Gap.broken (g : Gap) : Bool := g.first.isSome

/-- What a gap counts as: a single line break is a blank, and of several the first is
  dropped. -/
def Gap.text (g : Gap) : List Char :=
  match g.first with
  | Option.none => g.blanks
  | some first =>
      if first == ['\n'] then (if g.more.isEmpty then [' '] else g.more) else first ++ g.more

def readGap : Nat → Gap → Place → Gap × Place
  | 0, g, p => (g, p)
  | fuel + 1, g, p =>
      match p.rest with
      | [] => (g, p)
      | c :: _ =>
          if isBlank c then
            readGap fuel (if g.broken then g else { g with blanks := g.blanks ++ [c] }) p.next
          else if isBreak c then
            let b := breakText p.rest
            readGap fuel
              (if g.broken then { g with more := g.more ++ b } else ⟨[], some b, []⟩) p.nextLine
          else (g, p)

end Terralens.Yaml
