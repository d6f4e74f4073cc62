import Terralens.Text.Basic

/-!
# Paths and locations

A path is shown as it was written, but compared by its components: repeated and trailing
slashes and inner single dots do not count. The order of paths is the order of their
components, so everything below `a` comes before `a-b`. A location is where something is
defined: a file and a line. Lines count from one; line zero means that the line is not known.
-/

namespace Terralens

inductive Component where
  | root
  | here
  | up
  | name (text : String)
deriving DecidableEq, Repr

namespace Component

def rank : Component → Nat
  | .root => 0
  | .here => 1
  | .up => 2
  | .name _ => 3

def text : Component → String
  | .root => "/"
  | .here => "."
  | .up => ".."
  | .name text => text

/-- The components in order: by kind, names by their characters. -/
def order (a b : Component) : Ordering :=
  (compare a.rank b.rank).then (compare a.text b.text)

instance : Ord Component := ⟨order⟩

end Component

structure Path where
  text : String
deriving DecidableEq, Repr, Inhabited

namespace Path

/-- The component a piece between slashes stands for after the first one. -/
def inner? (piece : List Char) : Option Component :=
  if piece.isEmpty || piece == ['.'] then none
  else if piece == ['.', '.'] then some .up
  else some (.name (String.ofList piece))

def componentsOf : List (List Char) → List Component
  | [] => []
  | [] :: [] => []
  | [] :: rest => .root :: rest.filterMap inner?
  | first :: rest =>
      (if first == ['.'] then some .here else inner? first).toList ++ rest.filterMap inner?

/-- The components of a path, as the comparison of paths sees them. Repeated slashes, slashes at the
  end and single dots behind the first piece leave no trace. -/
def components (p : Path) : List Component := componentsOf (Text.pieces '/' p.text.toList)

def order (a b : Path) : Ordering := compare a.components b.components

instance : Ord Path := ⟨order⟩

def same (a b : Path) : Bool := a.components == b.components

def atMost (a b : Path) : Bool := (order a b).isLE

def isAbsolute (p : Path) : Bool := p.text.toList.head? == some '/'

/-- The path that `p` leads to from the directory `d`. -/
def join (d : Path) (p : String) : Path :=
  if p.toList.head? == some '/' || d.text.isEmpty then ⟨p⟩
  else if d.text.toList.getLast? == some '/' then ⟨d.text ++ p⟩
  else ⟨d.text ++ "/" ++ p⟩

def fileName? (p : Path) : Option String :=
  match p.components.getLast? with
  | some (.name text) => some text
  | _ => none

/-- What follows the last point of a name; `none` for a name whose only point is at its
  start. -/
def extensionOf (name : List Char) : Option (List Char) :=
  let after := (name.reverse.takeWhile (· != '.')).reverse
  let before := name.length - after.length
  if before ≤ 1 then none else some after

def extension? (p : Path) : Option String :=
  p.fileName?.bind fun name => (extensionOf name.toList).map String.ofList

/-- The pieces of a path after its first `count` components. -/
def dropComponents : Nat → List (List Char) → List (List Char)
  | 0, pieces => pieces
  | _, [] => []
  | count + 1, piece :: rest =>
      if (inner? piece).isNone then dropComponents (count + 1) rest else dropComponents count rest

def isEmptyPiece (piece : List Char) : Bool := (inner? piece).isNone

/-- The path below a directory; `none` when the path is not below it. -/
def below? (dir p : Path) : Option Path :=
  let base := dir.components
  if base.isPrefixOf p.components then
    let pieces := Text.pieces '/' p.text.toList
    if base.isEmpty then some p
    else
      let named := (base.filter fun c => c != .root && c != .here).length
      let left := (dropComponents named pieces).dropWhile isEmptyPiece
      let left := (left.reverse.dropWhile isEmptyPiece).reverse
      some ⟨String.ofList (['/'].intercalate left)⟩
  else none

def short (p : Path) : String :=
  let cs := p.components
  "/".intercalate ((cs.drop (cs.length - 2)).map Component.text)

end Path

/-- Where something is defined: a file and a line of it (`SourceLocation`). Line zero stands for a
  line that was not found. -/
structure Location where
  file : Path
  line : Nat
deriving DecidableEq, Repr, Inhabited

namespace Location

def order (a b : Location) : Ordering :=
  (a.file.order b.file).then (compare a.line b.line)

instance : Ord Location := ⟨order⟩

def withLine (path : String) (line : Nat) : String :=
  if line = 0 then path else path ++ ":" ++ toString line

def text (l : Location) : String := withLine l.file.text l.line

/-- The location as tables show it: the last two components of the path and the line
  (`contextual_location`). -/
def short (l : Location) : String := withLine l.file.short l.line

end Location

end Terralens
