import Terralens.Document
import Terralens.EntryRef

/-!
# Configurations

What the blocks of all files define together: resources, data sources, variables,
outputs, locals and modules under their keys, and everything else in its order.
-/

namespace Terralens

/-- A resource or data source, with all its attributes and blocks. -/
structure ResourceEntry where
  key : ResourceKey
  attributes : KeyMap String Value
  blocks : List Block
  location : Location
deriving Repr, Inhabited

/-- An input variable. The type is kept as its text, the default as a value. -/
structure VariableEntry where
  name : String
  description : Option String
  type : Option String
  default : Option Value
  sensitive : Option Bool
  hasValidation : Bool
  location : Location
deriving Repr, Inhabited

/-- An output. Its value is kept as text; what else stands in its block is dropped. -/
structure OutputEntry where
  name : String
  description : Option String
  value : Option String
  sensitive : Option Bool
  location : Location
deriving Repr, Inhabited

/-- A local value as text, located at the block around it. -/
structure LocalEntry where
  name : String
  value : String
  location : Location
deriving Repr, Inhabited

/-- The configuration of a provider, under its name or under an alias. -/
structure ProviderEntry where
  name : String
  alternate : Option String
  attributes : KeyMap String Value
  location : Location
deriving Repr, Inhabited

/-- How a provider is referred to: by its name, with the alias behind a point (`reference`). -/
def ProviderEntry.reference (p : ProviderEntry) : String :=
  match p.alternate with
  | some alternate => p.name ++ "." ++ alternate
  | none => p.name

/-- A call of a module. Source and version do not count among its attributes, and the blocks inside
  the call are dropped. -/
structure ModuleEntry where
  name : String
  source : Option String
  version : Option String
  attributes : KeyMap String Value
  location : Location
deriving Repr, Inhabited

/-- What is required of one provider (`RequiredProvider`). -/
structure ProviderRequirement where
  source : Option String
  version : Option String
deriving DecidableEq, Repr, Inhabited

/-- What one block of settings says: the version that is required, the providers that are, and where
  the state is kept (`TerraformSettings`). -/
structure Settings where
  requiredVersion : Option String
  requiredProviders : KeyMap String ProviderRequirement
  backend : Option String
  location : Location
deriving Repr, Inhabited

structure VariableValue where
  value : Value
  location : Location
deriving Repr, Inhabited

/-- A block of a type that has no meaning here, by its header. -/
structure UnrecognizedBlock where
  type : String
  labels : List String
  location : Location
deriving DecidableEq, Repr, Inhabited

def UnrecognizedBlock.header (b : UnrecognizedBlock) : String := headerText b.type b.labels

/-- Everything the files of a directory define (`ParsedConfiguration`). What has a name of its own
  is kept by that name, all else in the order of the files. -/
structure Configuration where
  resources : KeyMap ResourceKey ResourceEntry
  dataSources : KeyMap ResourceKey ResourceEntry
  inputs : KeyMap String VariableEntry
  outputs : KeyMap String OutputEntry
  locals : KeyMap String LocalEntry
  providers : List ProviderEntry
  modules : KeyMap String ModuleEntry
  settings : List Settings
  variableValues : KeyMap String VariableValue
  unrecognized : List UnrecognizedBlock
  strayAttributes : List Assignment
deriving Repr, Inhabited

namespace Configuration

def empty : Configuration :=
  ⟨.empty, .empty, .empty, .empty, .empty, [], .empty, [], .empty, [], []⟩

/-- Whether nothing at all is defined (`is_empty`). -/
def isEmpty (c : Configuration) : Bool :=
  c.resources.isEmpty && c.dataSources.isEmpty && c.inputs.isEmpty && c.outputs.isEmpty &&
    c.locals.isEmpty && c.providers.isEmpty && c.modules.isEmpty && c.settings.isEmpty &&
    c.variableValues.isEmpty && c.unrecognized.isEmpty && c.strayAttributes.isEmpty

/-- What is unusual in a configuration without being an error (`warnings`): blocks of unknown types
  and attributes outside any block. -/
def warnings (c : Configuration) : List String :=
  c.unrecognized.map (fun b =>
    b.location.text ++ ": unrecognized block type '" ++ b.header ++ "'") ++
  c.strayAttributes.map (fun a =>
    a.location.text ++ ": top-level attribute '" ++ a.name ++ "' outside of any block")

def typePrefix? (type : String) : Option String :=
  (Text.splitAtChar '_' type.toList).map fun (before, _) => String.ofList before

/-- The names of all providers that are defined, required, or named by the type of a resource or
  data source (`provider_names`). -/
def providerNames (c : Configuration) : List String :=
  (KeySet.ofList (c.providers.map (·.name) ++
    c.settings.flatMap (·.requiredProviders.keys) ++
    (c.resources.keys ++ c.dataSources.keys).filterMap fun k => typePrefix? k.type)).toList

end Configuration

end Terralens
