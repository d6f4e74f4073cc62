import Terralens.Lint
import Terralens.Text.Json

/-!
# Reports in JSON

What an analysis and a lint run found, as JSON. Maps become arrays in the order of their
keys, except those with plain names as keys.
-/

namespace Terralens

def version : String := "0.1.0"

namespace Report

open Text (Json)

def locationJson (l : Location) : Json :=
  .object [("file", .string l.file.text), ("line", .nat l.line)]

mutual

def valueJson : Value → Json
  | .null => .object [("type", .string "null")]
  | .string s => .object [("type", .string "string"), ("value", .string s)]
  | .number n => .object [("type", .string "number"), ("value", .number n.compact)]
  | .bool b => .object [("type", .string "bool"), ("value", .bool b)]
  | .list items => .object [("type", .string "list"), ("value", .array (itemsJson items))]
  | .map entries => .object [("type", .string "map"), ("value", .object (entriesJson entries))]
  | .expression s => .object [("type", .string "expression"), ("value", .string s)]

def itemsJson : List Value → List Json
  | [] => []
  | v :: rest => valueJson v :: itemsJson rest

def entriesJson : List (String × Value) → List (String × Json)
  | [] => []
  | (k, v) :: rest => (k, valueJson v) :: entriesJson rest

end

def attributesJson (attributes : KeyMap String Value) : Json :=
  .object (entriesJson attributes.entries)

mutual

def blockJson : Block → Json
  | ⟨type, labels, attributes, blocks, location⟩ =>
    .object [
      ("block_type", .string type),
      ("labels", .strings labels),
      ("attributes", attributesJson attributes),
      ("nested_blocks", .array (blocksJson blocks)),
      ("location", locationJson location)]

def blocksJson : List Block → List Json
  | [] => []
  | b :: rest => blockJson b :: blocksJson rest

end

def resourceJson (e : ResourceEntry) : Json :=
  .object [
    ("key", .object [("resource_type", .string e.key.type), ("name", .string e.key.name)]),
    ("attributes", attributesJson e.attributes),
    ("nested_blocks", .array (blocksJson e.blocks)),
    ("location", locationJson e.location)]

def variableJson (e : VariableEntry) : Json :=
  .object [
    ("name", .string e.name),
    ("description", .string? e.description),
    ("type", .string? e.type),
    ("default", (e.default.map valueJson).getD .null),
    ("sensitive", .bool? e.sensitive),
    ("has_validation", .bool e.hasValidation),
    ("location", locationJson e.location)]

def outputJson (e : OutputEntry) : Json :=
  .object [
    ("name", .string e.name),
    ("description", .string? e.description),
    ("value", .string? e.value),
    ("sensitive", .bool? e.sensitive),
    ("location", locationJson e.location)]

def localJson (e : LocalEntry) : Json :=
  .object [
    ("name", .string e.name),
    ("value", .string e.value),
    ("location", locationJson e.location)]

def providerJson (e : ProviderEntry) : Json :=
  .object [
    ("name", .string e.name),
    ("alias", .string? e.alternate),
    ("attributes", attributesJson e.attributes),
    ("location", locationJson e.location)]

def moduleJson (e : ModuleEntry) : Json :=
  .object [
    ("name", .string e.name),
    ("source", .string? e.source),
    ("version", .string? e.version),
    ("attributes", attributesJson e.attributes),
    ("location", locationJson e.location)]

def settingsJson (s : Settings) : Json :=
  .object [
    ("required_version", .string? s.requiredVersion),
    ("required_providers", .object (s.requiredProviders.entries.map fun (name, r) =>
      (name, .object [("source", .string? r.source), ("version", .string? r.version)]))),
    ("backend", .string? s.backend),
    ("location", locationJson s.location)]

def variableValueJson (v : VariableValue) : Json :=
  .object [("value", valueJson v.value), ("location", locationJson v.location)]

/-- An error about a file, with its place when it has one (`JsonParseError`). -/
def parseErrorJson : Error → Json
  | .malformed file detail line column =>
      .object ([("file", .string file.text)] ++
        (line.map fun n => ("line", Json.nat n)).toList ++
        (column.map fun n => ("column", Json.nat n)).toList ++
        [("message", .string detail)])
  | e =>
      .object [("file", .string ((e.file?.map (·.text)).getD "")), ("message", .string e.message)]

/-- The dependencies by the names with which entries are displayed. Where two entries are displayed
  alike, only the later one is left. -/
def dependencyNames (m : DependencyMap) : KeyMap String (List String) :=
  .ofList (m.entries.map fun (source, targets) =>
    (source.text, targets.toList.map EntryRef.text))

/-- How many dependencies there are, counted before the entries are named. -/
def dependencyCount (m : DependencyMap) : Nat := (m.values.map KeyMap.size).foldr (· + ·) 0

/-- How much of each kind is defined (`ReportSummary`). -/
def summaryJson (a : Analysis) : Json :=
  let c := a.configuration
  .object [
    ("total_resources", .nat c.resources.size),
    ("total_data_sources", .nat c.dataSources.size),
    ("total_variables", .nat c.inputs.size),
    ("total_outputs", .nat c.outputs.size),
    ("total_locals", .nat c.locals.size),
    ("total_modules", .nat c.modules.size),
    ("total_providers", .nat c.providers.length),
    ("total_dependency_edges", .nat (dependencyCount a.dependencies)),
    ("has_parse_errors", .bool a.hasParseErrors),
    ("has_warnings", .bool (!a.warnings.isEmpty))]

/-- The whole report on an analysis (`JsonReport`). -/
def analysisJson (timestamp : String) (a : Analysis) : Json :=
  let c := a.configuration
  .object [
    ("metadata", .object [
      ("version", .string version),
      ("timestamp", .string timestamp),
      ("directory", .string a.directory.text),
      ("files_parsed", .nat a.files.length)]),
    ("summary", summaryJson a),
    ("parse_errors", .array (a.parseErrors.map parseErrorJson)),
    ("warnings", .strings a.warnings),
    ("resources", .array (c.resources.values.map resourceJson)),
    ("data_sources", .array (c.dataSources.values.map resourceJson)),
    ("variables", .array (c.inputs.values.map variableJson)),
    ("outputs", .array (c.outputs.values.map outputJson)),
    ("locals", .array (c.locals.values.map localJson)),
    ("providers", .array (c.providers.map providerJson)),
    ("modules", .array (c.modules.values.map moduleJson)),
    ("terraform", .array (c.settings.map settingsJson)),
    ("variable_values", .object (c.variableValues.entries.map fun (name, v) =>
      (name, variableValueJson v))),
    ("dependencies", .object ((dependencyNames a.dependencies).entries.map fun (name, targets) =>
      (name, .strings targets)))]

def fileStatusJson (s : FileStatus) : Json :=
  .object [
    ("path", .string s.path.text),
    ("valid", .bool s.valid),
    ("error", .string? s.error),
    ("warnings", .nat s.warnings),
    ("suggestions", .nat s.suggestions)]

def severityTag : Severity → String
  | .suggestion => "suggestion"
  | .warning => "warning"

def findingJson (f : Finding) : Json :=
  .object [
    ("code", .string f.code),
    ("severity", .string (severityTag f.severity)),
    ("message", .string f.message),
    ("location", locationJson f.location)]

/-- The whole report on a lint run (`generate_lint`). -/
def lintJson (r : LintReport) : Json :=
  .object [
    ("directory", .string r.directory.text),
    ("files", .array (r.files.map fileStatusJson)),
    ("findings", .array (r.findings.map findingJson))]

def writeJson (pretty : Bool) (j : Json) : String := if pretty then j.pretty else j.compact

end Report

end Terralens
