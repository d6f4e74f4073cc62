import Terralens.Document
import Terralens.Document.Outline
import Terralens.Error
import Terralens.Hcl.Position
import Terralens.Literal

/-!
# Reading documents

The document a file holds: its blocks and assignments with their values, each located in
the text of the file. Blocks and assignments of the file follow one another in the search
for their lines; the blocks inside a block are searched for from its own line on.
-/

namespace Terralens

open Hcl

/-- The name and the value of a part of a body that is an attribute. -/
def Hcl.Structure.keyValue? : Structure → Option (String × Value)
  | .attribute key e => some (key, e.value)
  | .block .. => none

/-- The attributes of a body by their names; of several with one name the last counts. -/
def attributesOf (body : Body) : KeyMap String Value := .ofList (body.filterMap Structure.keyValue?)

mutual

/-- The block that a part of a body is, and where the search for the next one starts
  (`convert_block`). The blocks inside are searched for from its own line on; what is found there
  does not count in the search for the part behind it. -/
def blockOf (file : Path) (lines : List (List Char)) (start : Nat) :
    Structure → Option Block × Nat
  | .attribute .. => (none, start)
  | .block type labels body =>
      let line := Outline.findHeader lines type labels start
      let start := Outline.next start line
      -- The end of the search inside the block is dropped: what is handed on is `start`, right
      -- behind the header, so the next header may be found among the blocks inside.
      (some ⟨type, labels, attributesOf body, blocksOf file lines start body,
        ⟨file, line.getD 0⟩⟩, start)

def blocksOf (file : Path) (lines : List (List Char)) (start : Nat) :
    List Structure → List Block
  | [] => []
  | part :: rest =>
      let (block, start) := blockOf file lines start part
      block.toList ++ blocksOf file lines start rest

end

/-- The blocks and assignments of the body of a file, with the line of each. One search goes through
  all of them, in the order of the text. -/
def partsOf (file : Path) (lines : List (List Char)) (start : Nat) :
    Body → List Block × List Assignment
  | [] => ([], [])
  | .attribute name e :: rest =>
      let line := Outline.findAssignment lines name start
      let (blocks, assignments) := partsOf file lines (Outline.next start line) rest
      (blocks, ⟨name, e.value, ⟨file, line.getD 0⟩⟩ :: assignments)
  | part :: rest =>
      let (block, start) := blockOf file lines start part
      let (blocks, assignments) := partsOf file lines start rest
      (block.toList ++ blocks, assignments)

/-- The document a file holds (`parse_document`). A text that is not well formed is an error with
  the place at which reading it stopped (`parse_error`). -/
def SourceFile.document (file : SourceFile) : Except Error Document :=
  match parseBody file.text.toList with
  | .error e => .error (.malformed file.path e.message (some e.line) (some e.column))
  | .ok body =>
      let (blocks, assignments) := partsOf file.path (Text.lines file.text.toList) 0 body
      .ok ⟨file.path, file.kind, blocks, assignments⟩

end Terralens
