import Terralens.Document
import Terralens.Files.Tree

/-!
# File systems

A tree and a directory in it from which relative paths lead on. A path is followed name by
name; a link is replaced by its target, forty times at most. What is read is what a path
leads to; what is written takes its place.
-/

namespace Terralens

structure FileSystem where
  root : FileTree
  working : List String
deriving Inhabited

namespace FileSystem

def longestPath : Nat := 4095

def longestName : Nat := 255

def mostLinks : Nat := 40

/-- Where following a path comes to a stop: at a place, named from the root, where there is
  something or nothing yet, or at a link that leads on. -/
inductive Stop where
  | found (place : List String) (t : FileTree)
  | absent (place : List String)
  | link (directory : List String) (target : Path) (rest : List (List Char))

/-- Follows the pieces of a path from a directory up to its end or the first link. -/
def follow (root : FileTree) : List (List Char) → List String → Except Fault Stop
  | [], place =>
      match root.descend? place with
      | some t => .ok (.found place t)
      | none => .error .missing
  | piece :: rest, place =>
      match root.descend? place with
      | none => .error .missing
      | some (.directory entries) =>
          if piece.isEmpty || piece == ['.'] then follow root rest place
          else if piece == ['.', '.'] then follow root rest place.dropLast
          else
            let name := String.ofList piece
            if name.utf8ByteSize > longestName then .error .tooLong
            else
              match findEntry name entries with
              | some (.link target) => .ok (.link place target rest)
              | some _ => follow root rest (place ++ [name])
              -- Only the last name of a path may be missing, for there a file can be written.
              | none => if rest.isEmpty then .ok (.absent (place ++ [name])) else .error .missing
      | some _ => .error .notDirectory

/-- The place from which a path leads on, and its pieces. -/
def start (working : List String) (p : Path) : List String × List (List Char) :=
  (if p.isAbsolute then [] else working, Text.pieces '/' p.text.toList)

def followLinks (root : FileTree) :
    Nat → List String → List (List Char) → Except Fault (List String × Option FileTree)
  | links, place, pieces => do
      match ← follow root pieces place with
      | .found place t => pure (place, some t)
      | .absent place => pure (place, none)
      | .link directory target rest =>
          match links with
          | 0 => .error .tooManyLinks
          | links + 1 =>
              let (place, pieces) := start directory target
              followLinks root links place (pieces ++ rest)

/-- The place a path leads to and what is there; nothing when only the last name is
  missing. -/
def locate (s : FileSystem) (p : Path) : Except Fault (List String × Option FileTree) :=
  if p.text.isEmpty then .error .missing
  else if p.text.toList.contains '\x00' then .error .strayNul
  else if p.text.utf8ByteSize > longestPath then .error .tooLong
  else
    let (place, pieces) := start s.working p
    followLinks s.root mostLinks place pieces

def get? (s : FileSystem) (p : Path) : Option FileTree :=
  match s.locate p with
  | .ok (_, t) => t
  | .error _ => none

def isDirectory (s : FileSystem) (p : Path) : Bool := ((s.get? p).map FileTree.isDirectory).getD false

def isFile (s : FileSystem) (p : Path) : Bool := ((s.get? p).map FileTree.isFile).getD false

def exists? (s : FileSystem) (p : Path) : Bool := (s.get? p).isSome

def read (s : FileSystem) (p : Path) : Except Fault String := do
  match ← s.locate p with
  | (_, some (.file bytes)) => textOf bytes
  | (_, some (.unreadable fault)) => .error fault
  | (_, some _) => .error .isDirectory
  | (_, none) => .error .missing

/-- The file system with a text where a path leads, in place of a file or where nothing is
  yet. -/
def write (s : FileSystem) (p : Path) (text : String) : Except Fault FileSystem := do
  match ← s.locate p with
  | (_, some (.directory _)) => .error .isDirectory
  | (_, some (.unreadable fault)) => .error fault
  | (place, _) => pure { s with root := FileTree.put (.file text.toUTF8) place s.root }

def readSource (s : FileSystem) (p : Path) : Except Error SourceFile :=
  match s.read p with
  | .ok text => .ok (.of p text)
  | .error fault => .error (.fileRead p fault)

end FileSystem

end Terralens
