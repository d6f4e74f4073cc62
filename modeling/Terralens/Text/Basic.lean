/-!
# Texts

What is done with texts wherever they come from: they are cut at white space, at line ends, at a
number of bytes and at the occurrences of another text. A text is the list of its characters; the
functions on strings go through that list.
-/

namespace Terralens.Text

/-! ### White space -/

/-- The property `White_Space` of Unicode. -/
def isBlank (c : Char) : Bool :=
  let n := c.toNat
  (9 ≤ n && n ≤ 13) || n == 0x20 || n == 0x85 || n == 0xA0 || n == 0x1680 ||
    (0x2000 ≤ n && n ≤ 0x200A) || n == 0x2028 || n == 0x2029 || n == 0x202F ||
    n == 0x205F || n == 0x3000

def trimLeft (s : List Char) : List Char := s.dropWhile isBlank

def trimRight (s : List Char) : List Char := (s.reverse.dropWhile isBlank).reverse

def trim (s : List Char) : List Char := trimRight (trimLeft s)

def trimmed (s : String) : String := String.ofList (trim s.toList)

/-- The part before the first white space and the part after it; `none` without one. -/
def splitAtBlank : List Char → Option (List Char × List Char)
  | [] => none
  | c :: rest =>
      if isBlank c then some ([], rest)
      else (splitAtBlank rest).map fun (before, after) => (c :: before, after)

/-! ### Lines

A line ends at a line feed, and a carriage return just before that line feed belongs to
the line end. A last line without a line feed counts when it is not empty, and keeps a
carriage return it ends with. -/

def dropCarriage : List Char → List Char
  | '\r' :: rest => rest
  | line => line

/-- The lines of a text, given the part of the first one already read, backwards. -/
def linesFrom (current : List Char) : List Char → List (List Char)
  | [] => if current.isEmpty then [] else [current.reverse]
  | c :: rest =>
      if c = '\n' then (dropCarriage current).reverse :: linesFrom [] rest
      else linesFrom (c :: current) rest

def lines (s : List Char) : List (List Char) := linesFrom [] s

def linesOf (s : String) : List String := (lines s.toList).map String.ofList

/-! ### Lower case

The lower-case form of a text, as far as words in ASCII letters are looked for in it. Two
characters outside ASCII have lower-case forms with an ASCII letter, the Kelvin sign and
the dotted capital `I`; the lower-case form of any other holds no ASCII character, so it
is left as it stands. -/

def lowerChar (c : Char) : List Char :=
  if c = '\u212a' then ['k']
  else if c = '\u0130' then ['i', '\u0307']
  else [c.toLower]

def lowered (s : List Char) : List Char := s.flatMap lowerChar

/-! ### Numbers of bytes -/

/-- The longest start of a text with at most so many bytes; no character is cut (`truncate_to`). -/
def takeBytes : Nat → List Char → List Char
  | _, [] => []
  | budget, c :: rest =>
      if c.utf8Size ≤ budget then c :: takeBytes (budget - c.utf8Size) rest else []

def withinBytes (budget : Nat) (s : String) : String := String.ofList (takeBytes budget s.toList)

/-! ### Searching and replacing

Occurrences of a text are found from left to right and do not overlap. -/

/-- What follows `start` in a text that begins with it. -/
def afterStart? : List Char → List Char → Option (List Char)
  | [], s => some s
  | _ :: _, [] => none
  | p :: ps, c :: cs => if p = c then afterStart? ps cs else none

/-- Whether `part` occurs somewhere in the text. -/
def occurs (part : List Char) : List Char → Bool
  | [] => part.isEmpty
  | c :: rest => part.isPrefixOf (c :: rest) || occurs part rest

/-- Replaces every occurrence of `old`, found from left to right without overlap;
  `skip` characters of the text belong to an occurrence already replaced. -/
def replaceFrom (old new : List Char) : Nat → List Char → List Char
  | _, [] => []
  | skip + 1, _ :: rest => replaceFrom old new skip rest
  | 0, c :: rest =>
      if old.isPrefixOf (c :: rest) then new ++ replaceFrom old new (old.length - 1) rest
      else c :: replaceFrom old new 0 rest

def replaceAll (old new s : List Char) : List Char := replaceFrom old new 0 s

/-- Whether `part` occurs in `s`. -/
def contains (s part : String) : Bool := occurs part.toList s.toList

/-- The parts of a text around the first occurrence of a character. -/
def splitAtChar (sep : Char) : List Char → Option (List Char × List Char)
  | [] => none
  | c :: rest =>
      if c = sep then some ([], rest)
      else (splitAtChar sep rest).map fun (before, after) => (c :: before, after)

/-- The pieces of a text between the occurrences of a character; always at least one. -/
def pieces (sep : Char) : List Char → List (List Char)
  | [] => [[]]
  | c :: rest =>
      if c = sep then [] :: pieces sep rest
      else
        match pieces sep rest with
        | [] => [[c]]
        | first :: others => (c :: first) :: others

end Terralens.Text
