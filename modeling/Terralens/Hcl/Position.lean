import Terralens.Hcl.Body

/-!
# Syntax errors

Where a syntax error lies, and what its message says. Lines and columns count from one;
a column counts characters. Two places are special: the end of the text lies one column
after its last character, even when that is a line break; and when a character outside
ASCII stands at the place itself, the column counts bytes.
-/

namespace Terralens.Hcl

structure SyntaxError where
  line : Nat
  column : Nat
  message : String
deriving DecidableEq, Repr

def countBreaks (s : List Char) : Nat := s.count '\n'

def lastLine (s : List Char) : List Char := (s.reverse.takeWhile (· != '\n')).reverse

def byteCount (s : List Char) : Nat := (s.map Char.utf8Size).foldr (· + ·) 0

/-- Line and column of the place that `before` precedes and `rest` follows. -/
def placeOf (before rest : List Char) : Nat × Nat :=
  match rest with
  | c :: _ =>
      let line := lastLine before
      (countBreaks before + 1,
        if c.toNat < 128 then line.length + 1 else byteCount line + 1)
  | [] =>
      match before.reverse with
      | [] => (1, 1)
      | _ :: earlier =>
          let start := earlier.reverse
          (countBreaks start + 1, (lastLine start).length + 2)

def listExpected : List String → String
  | [] => ""
  | [one] => one
  | [one, two] => one ++ " or " ++ two
  | one :: more => one ++ ", " ++ listExpected more

def Failure.message (why : Failure) : String :=
  (match why.label with
    | some label => "invalid " ++ label ++ "; "
    | none => "") ++
  (if why.expected.isEmpty then "unexpected token" else "expected " ++ listExpected why.expected)

def Failure.locate (text : List Char) (why : Failure) : SyntaxError :=
  let (line, column) := placeOf (text.take (text.length - why.rest.length)) why.rest
  ⟨line, column, why.message⟩

def parseBody (text : List Char) : Except SyntaxError Body :=
  match readBody text with
  | .ok body => .ok body
  | .error why => .error (why.locate text)

end Terralens.Hcl
