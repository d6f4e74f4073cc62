import Terralens.Configuration
import Terralens.Error

/-!
# Extraction

How blocks and documents become a configuration. Every entry may be defined only once; only
the values given to variables may be given again, and then the last counts. A block that
cannot be added leaves the configuration as it was, except that the entries of a `locals`
block are added one by one, up to the first that is defined already.
-/

namespace Terralens

/-- What an addition leads to: the configuration, and the error if there was one. An addition that
  fails may still have changed the configuration, so both are kept. -/
structure Extraction where
  configuration : Configuration
  error? : Option Error
deriving Inhabited

namespace Extraction

def done (c : Configuration) : Extraction := ⟨c, none⟩

/-- The outcome of an addition that leaves the configuration as it was when it fails. -/
def ofExcept (c : Configuration) : Except Error Configuration → Extraction
  | .ok c' => ⟨c', none⟩
  | .error e => ⟨c, some e⟩

/-- What is left of an extraction for those who only want a whole configuration. -/
def toExcept (x : Extraction) : Except Error Configuration :=
  match x.error? with
  | none => .ok x.configuration
  | some e => .error e

end Extraction

/-- The label of a block at a place, or the error that names what is missing there
  (`required_label`). -/
def Block.requiredLabel (b : Block) (index : Nat) (what : String) : Except Error String :=
  match b.labels[index]? with
  | some label => .ok label
  | none =>
      .error (.incomplete b.location
        ("'" ++ b.type ++ "' block is missing its " ++ what ++ " label"))

/-- The map with one more entry (`insert_unique`). An entry that is there already is an error, which
  names the places of both. -/
def insertUnique {κ ν : Type} [Ord κ] [Std.TransOrd κ] (kind : EntryKind) (name : κ → String)
    (location : ν → Location) (m : KeyMap κ ν) (k : κ) (v : ν) : Except Error (KeyMap κ ν) :=
  match m.get? k with
  | some first => .error (.duplicate kind (name k) (location first) (location v))
  | none => .ok (m.insert k v)

/-- The entries of one kind with the one that a block defines. All kinds that are kept by name are
  added in this way, each with its own key and location (`add_block`). -/
def addEntry {κ ν : Type} [Ord κ] [Std.TransOrd κ] (kind : EntryKind) (name : κ → String)
    (location : ν → Location) (key : ν → κ) (m : KeyMap κ ν) (entry : Except Error ν) :
    Except Error (KeyMap κ ν) := do
  let e ← entry
  insertUnique kind name location m (key e) e

/-- The resource or data source that a block defines (`resource_entry`). The type is missed before
  the name is. -/
def ResourceEntry.ofBlock (b : Block) : Except Error ResourceEntry := do
  let type ← b.requiredLabel 0 "type"
  let name ← b.requiredLabel 1 "name"
  pure ⟨⟨type, name⟩, b.attributes, b.blocks, b.location⟩

/-- The variable that a block defines (`variable_entry`). -/
def VariableEntry.ofBlock (b : Block) : Except Error VariableEntry := do
  let name ← b.requiredLabel 0 "variable name"
  pure {
    name := name
    description := b.string? "description"
    type := (b.attributes.get? "type").map Value.rawText
    default := b.attributes.get? "default"
    sensitive := b.bool? "sensitive"
    hasValidation := !(b.nested "validation").isEmpty
    location := b.location }

/-- The output that a block defines (`output_entry`). -/
def OutputEntry.ofBlock (b : Block) : Except Error OutputEntry := do
  let name ← b.requiredLabel 0 "output name"
  pure {
    name := name
    description := b.string? "description"
    value := (b.attributes.get? "value").map Value.rawText
    sensitive := b.bool? "sensitive"
    location := b.location }

/-- The module call that a block defines (`module_entry`). -/
def ModuleEntry.ofBlock (b : Block) : Except Error ModuleEntry := do
  let name ← b.requiredLabel 0 "module name"
  pure {
    name := name
    source := b.string? "source"
    version := b.string? "version"
    attributes := b.attributes.filterKeys fun k => k != "source" && k != "version"
    location := b.location }

/-- The provider that a block configures. The alias counts when it is a literal string. -/
def ProviderEntry.ofBlock (b : Block) : Except Error ProviderEntry := do
  let name ← b.requiredLabel 0 "provider name"
  pure ⟨name, b.string? "alias", b.attributes, b.location⟩

/-- What a value requires of a provider: a version alone, or source and version by name
  (`provider_requirement`). -/
def ProviderRequirement.ofValue : Value → ProviderRequirement
  | .string version => ⟨none, some version⟩
  | .map entries =>
      ⟨(findEntry "source" entries).bind Value.string?,
        (findEntry "version" entries).bind Value.string?⟩
  | _ => ⟨none, none⟩

/-- The requirements in a block of settings; of several for one provider the last counts, whether
  they stand in one block of requirements or in several. -/
def requiredProvidersOf (b : Block) : KeyMap String ProviderRequirement :=
  .ofList ((b.nested "required_providers").flatMap fun nested =>
    nested.attributes.entries.map fun (name, v) => (name, .ofValue v))

/-- What a block of settings says (`terraform_settings`). Where there are several backends the first
  one counts. -/
def Settings.ofBlock (b : Block) : Settings where
  requiredVersion := b.string? "required_version"
  requiredProviders := requiredProvidersOf b
  backend := (b.nested "backend").head?.bind (·.labels[0]?)
  location := b.location

namespace Configuration

def addResource (c : Configuration) (b : Block) : Except Error Configuration := do
  let resources ← addEntry .resource ResourceKey.text (·.location) (·.key) c.resources
    (ResourceEntry.ofBlock b)
  pure { c with resources := resources }

def addDataSource (c : Configuration) (b : Block) : Except Error Configuration := do
  let sources ← addEntry .dataSource ResourceKey.text (·.location) (·.key) c.dataSources
    (ResourceEntry.ofBlock b)
  pure { c with dataSources := sources }

def addVariable (c : Configuration) (b : Block) : Except Error Configuration := do
  let inputs ← addEntry .variable id (·.location) (·.name) c.inputs (VariableEntry.ofBlock b)
  pure { c with inputs := inputs }

def addOutput (c : Configuration) (b : Block) : Except Error Configuration := do
  let outputs ← addEntry .output id (·.location) (·.name) c.outputs (OutputEntry.ofBlock b)
  pure { c with outputs := outputs }

def addModule (c : Configuration) (b : Block) : Except Error Configuration := do
  let modules ← addEntry .module id (·.location) (·.name) c.modules (ModuleEntry.ofBlock b)
  pure { c with modules := modules }

/-- Adds a provider (`add_provider`). A provider may be defined once without alias and once under
  each. -/
def addProvider (c : Configuration) (b : Block) : Except Error Configuration := do
  let entry ← ProviderEntry.ofBlock b
  match c.providers.find? fun p => p.name == entry.name && p.alternate == entry.alternate with
  | some first => .error (.duplicate .provider first.reference first.location entry.location)
  | none => pure { c with providers := c.providers ++ [entry] }

/-- Adds local values one by one, up to the first that is defined already (`add_locals`). Those
  before it stay. -/
def addLocals (location : Location) : List (String × Value) → Configuration → Extraction
  | [], c => .done c
  | (name, v) :: rest, c =>
      match insertUnique .local id LocalEntry.location c.locals name
          ⟨name, v.rawText, location⟩ with
      | .ok entries => addLocals location rest { c with locals := entries }
      -- The entries added so far are in `c`: this is the one addition that fails half way.
      | .error e => ⟨c, some e⟩

/-- Adds what a block defines, by its type (`add_block`). A block of an unknown type is kept
  apart. -/
def addBlock (c : Configuration) (b : Block) : Extraction :=
  match b.type with
  | "resource" => .ofExcept c (c.addResource b)
  | "data" => .ofExcept c (c.addDataSource b)
  | "variable" => .ofExcept c (c.addVariable b)
  | "output" => .ofExcept c (c.addOutput b)
  | "locals" => addLocals b.location b.attributes.entries c
  | "provider" => .ofExcept c (c.addProvider b)
  | "module" => .ofExcept c (c.addModule b)
  | "terraform" => .done { c with settings := c.settings ++ [.ofBlock b] }
  | _ => .done { c with unrecognized := c.unrecognized ++ [⟨b.type, b.labels, b.location⟩] }

def addBlocks (c : Configuration) : List Block → Extraction
  | [] => .done c
  | b :: rest =>
      let x := c.addBlock b
      if x.error?.isSome then x else x.configuration.addBlocks rest

/-- Adds an assignment: in a file of variable values it gives a variable its value, elsewhere it
  belongs to nothing. Of several values for one variable the last counts. -/
def addAssignment (kind : FileKind) (c : Configuration) (a : Assignment) : Configuration :=
  match kind with
  | .tfvars => { c with variableValues := c.variableValues.insert a.name ⟨a.value, a.location⟩ }
  | _ => { c with strayAttributes := c.strayAttributes ++ [a] }

/-- Adds what a document defines (`add_document`): its blocks, and if none of them fails its
  assignments. -/
def addDocument (c : Configuration) (d : Document) : Extraction :=
  let x := c.addBlocks d.blocks
  if x.error?.isSome then x
  else .done (d.assignments.foldl (addAssignment d.kind) x.configuration)

def addDocuments (c : Configuration) : List Document → Extraction
  | [] => .done c
  | d :: rest =>
      let x := c.addDocument d
      if x.error?.isSome then x else x.configuration.addDocuments rest

/-- The configuration that blocks define (`extract_configuration`), or the error of the first that
  cannot be added. -/
def ofBlocks (blocks : List Block) : Except Error Configuration := (empty.addBlocks blocks).toExcept

/-- The configuration that documents define, added one after the other. -/
def ofDocuments (documents : List Document) : Except Error Configuration :=
  (empty.addDocuments documents).toExcept

end Configuration

end Terralens
