import Terralens.Path
import Terralens.Value

/-!
# Documents

A file of a configuration and what is read from it: blocks with their attributes and
nested blocks, and assignments outside any block. No block type has a meaning here.
-/

namespace Terralens

inductive FileKind where
  | terraform
  | tfvars
  | hcl
deriving DecidableEq, Repr, Inhabited

/-- The kind of a file by the extension of its path (`from_path`); none for any other extension, and
  none for a hidden file whose name is only the extension. -/
def FileKind.ofPath? (p : Path) : Option FileKind :=
  match p.extension? with
  | some "tf" => some .terraform
  | some "tfvars" => some .tfvars
  | some "hcl" => some .hcl
  | _ => none

/-- A file as it was read, before anything in its text is understood (`ParsedFile`). -/
structure SourceFile where
  path : Path
  text : String
  kind : FileKind
deriving DecidableEq, Repr, Inhabited

/-- A file given by its path and text; an unknown extension counts as generic. -/
def SourceFile.of (path : Path) (text : String) : SourceFile :=
  ⟨path, text, (FileKind.ofPath? path).getD .hcl⟩

/-- A block: its type and labels, its attributes by name, the blocks inside it in their order, and
  where its header stands. -/
structure Block where
  type : String
  labels : List String
  attributes : KeyMap String Value
  blocks : List Block
  location : Location
deriving Repr, Inhabited

/-- The header of a block: its type, then its labels between quotes (`block_header`). -/
def headerText (type : String) (labels : List String) : String :=
  labels.foldl (fun header label => header ++ " " ++ Text.quotedString label) type

namespace Block

def header (b : Block) : String := headerText b.type b.labels

def nested (b : Block) (type : String) : List Block := b.blocks.filter (·.type == type)

/-- The text of an attribute that is a literal string (`string_attribute`). An attribute that is
  absent, or of any other form such as an expression, has none. -/
def string? (b : Block) (name : String) : Option String :=
  (b.attributes.get? name).bind Value.string?

/-- The truth value of an attribute that is a literal one. -/
def bool? (b : Block) (name : String) : Option Bool :=
  (b.attributes.get? name).bind Value.bool?

end Block

structure Assignment where
  name : String
  value : Value
  location : Location
deriving Repr, Inhabited

/-- What one file holds: its blocks and its assignments outside any block, each in the order of the
  text. -/
structure Document where
  path : Path
  kind : FileKind
  blocks : List Block
  assignments : List Assignment
deriving Repr, Inhabited

end Terralens
