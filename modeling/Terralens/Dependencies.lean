import Terralens.Configuration
import Terralens.References

/-!
# Dependencies

Which entries of a configuration the text of an entry refers to. The text of a resource or
data source is that of its attributes and, to any depth, of those of its blocks; the text
of an output or local is its value, that of a module its attributes.
-/

namespace Terralens

/-- For each entry whose text is searched, the entries it refers to; an entry that refers to nothing
  has an empty set. -/
abbrev DependencyMap := KeyMap EntryRef (KeySet EntryRef)

/-- The values of attributes as text, in the order of their names, each on a line of its own. -/
def attributesText (attributes : KeyMap String Value) : String :=
  String.join (attributes.values.map fun v => v.text ++ "\n")

mutual

/-- The attributes of a block and of the blocks in it as text, to any depth (`push_block_text`). -/
def Block.attributeText : Block → String
  | ⟨_, _, attributes, blocks, _⟩ => attributesText attributes ++ blocksText blocks

def blocksText : List Block → String
  | [] => ""
  | b :: rest => b.attributeText ++ blocksText rest

end

/-- The text of a resource or data source in which references are looked for (`resource_text`). -/
def ResourceEntry.text (e : ResourceEntry) : String :=
  attributesText e.attributes ++ blocksText e.blocks

/-- The text of a module call in which references are looked for: its attributes without source and
  version. -/
def ModuleEntry.text (e : ModuleEntry) : String :=
  "\n".intercalate (e.attributes.values.map Value.text)

namespace Configuration

/-- The entries that can be referred to (`known_entries`): all but outputs and providers. -/
def knownEntries (c : Configuration) : KeySet EntryRef :=
  .ofList (c.resources.keys.map .resource ++ c.dataSources.keys.map .dataSource ++
    c.inputs.keys.map (⟨.variable, ·⟩) ++ c.locals.keys.map (⟨.local, ·⟩) ++
    c.modules.keys.map (⟨.module, ·⟩))

/-- The entries whose text is searched for references, with that text. -/
def entryTexts (c : Configuration) : List (EntryRef × String) :=
  c.resources.values.map (fun e => (.resource e.key, e.text)) ++
  c.dataSources.values.map (fun e => (.dataSource e.key, e.text)) ++
  c.outputs.values.map (fun e => (⟨.output, e.name⟩, e.value.getD "")) ++
  c.locals.values.map (fun e => (⟨.local, e.name⟩, e.value)) ++
  c.modules.values.map (fun e => (⟨.module, e.name⟩, e.text))

/-- Which entries refer to which (`list_dependencies`). The text of every entry is searched against
  the same known entries. -/
def dependencies (c : Configuration) : DependencyMap :=
  let known := c.knownEntries
  .ofList (c.entryTexts.map fun (source, text) => (source, references text source known))

end Configuration

end Terralens
