import Terralens.Error
import Terralens.KeyMap

/-!
# File trees

Files, links and directories nested in each other. A name in a directory stands for one of
the three; the names of a directory are in increasing order, so that listing it needs no
sorting. Of a file that cannot be opened only the fault is known that opening it meets.
-/

namespace Terralens

inductive FileTree where
  | file (bytes : ByteArray)
  | unreadable (fault : Fault)
  | link (target : Path)
  | directory (entries : List (String × FileTree))
deriving Inhabited

namespace FileTree

def empty : FileTree := .directory []

def isDirectory : FileTree → Bool
  | .directory _ => true
  | _ => false

/-- The bytes of a file, or the fault that opening it meets; `none` for what is no file. -/
def content? : FileTree → Option (Except Fault ByteArray)
  | .file bytes => some (.ok bytes)
  | .unreadable fault => some (.error fault)
  | _ => none

def isFile (t : FileTree) : Bool := t.content?.isSome

def child? (name : String) : FileTree → Option FileTree
  | .directory entries => findEntry name entries
  | _ => none

def descend? : List String → FileTree → Option FileTree
  | [], t => some t
  | name :: rest, t => (t.child? name).bind (descend? rest)

def entries : FileTree → List (String × FileTree)
  | .directory entries => entries
  | _ => []

/-- The tree with `t` where the names lead, and with directories on the way to it. -/
def put (t : FileTree) : List String → FileTree → FileTree
  | [], _ => t
  | name :: rest, old =>
      .directory (insertEntry name (put t rest ((old.child? name).getD empty)) old.entries)

end FileTree

namespace Fault

def missing : Fault := ⟨.missing, "No such file or directory (os error 2)"⟩

def notDirectory : Fault := ⟨.other, "Not a directory (os error 20)"⟩

def denied : Fault := ⟨.denied, "Permission denied (os error 13)"⟩

def isDirectory : Fault := ⟨.other, "Is a directory (os error 21)"⟩

def tooLong : Fault := ⟨.other, "File name too long (os error 36)"⟩

def tooManyLinks : Fault := ⟨.other, "Too many levels of symbolic links (os error 40)"⟩

def strayNul : Fault := ⟨.other, "file name contained an unexpected NUL byte"⟩

def notText : Fault := ⟨.other, "stream did not contain valid UTF-8"⟩

end Fault

def textOf (bytes : ByteArray) : Except Fault String :=
  match String.fromUTF8? bytes with
  | some text => .ok text
  | none => .error .notText

end Terralens
