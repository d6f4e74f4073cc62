import Terralens.Analysis

/-!
# Lint

Checks of good practice over a configuration, and their tally by file. Missing tags and
empty `depends_on` lists are warnings; a missing version constraint and a variable without
validation are suggestions.
-/

namespace Terralens

/-- How much a finding weighs. A suggestion is less than a warning. -/
inductive Severity where
  | suggestion
  | warning
deriving DecidableEq, Repr

def Severity.text : Severity → String
  | .suggestion => "SUGGESTION"
  | .warning => "WARNING"

structure Finding where
  code : String
  severity : Severity
  message : String
  location : Location
deriving DecidableEq, Repr

namespace Finding

def atMost (a b : Finding) : Bool :=
  ((a.location.order b.location).then (compare a.code b.code)).isLE

end Finding

/-- Whether `depends_on` is an empty list (`has_empty_depends_on`). A list that is absent, or that
  is kept as an expression, is not empty. -/
def hasEmptyDependsOn (attributes : KeyMap String Value) : Bool :=
  match attributes.get? "depends_on" with
  | some (.list []) => true
  | _ => false

/-- What is found about a resource: one of AWS without tags, and an empty list of dependencies. -/
def ResourceEntry.findings (e : ResourceEntry) : List Finding :=
  (if "aws_".toList.isPrefixOf e.key.type.toList && !e.attributes.contains "tags" then
    [⟨"missing-tags", .warning, "resource " ++ e.key.text ++ " should have tags", e.location⟩]
  else []) ++
  (if hasEmptyDependsOn e.attributes then
    [⟨"empty-depends-on", .warning, "resource " ++ e.key.text ++ " has an empty depends_on",
      e.location⟩]
  else [])

def ResourceEntry.dataFindings (e : ResourceEntry) : List Finding :=
  if hasEmptyDependsOn e.attributes then
    [⟨"empty-depends-on", .warning, "data source data." ++ e.key.text ++ " has an empty depends_on",
      e.location⟩]
  else []

def ModuleEntry.findings (e : ModuleEntry) : List Finding :=
  if hasEmptyDependsOn e.attributes then
    [⟨"empty-depends-on", .warning, "module " ++ e.name ++ " has an empty depends_on", e.location⟩]
  else []

def Settings.findings (s : Settings) : List Finding :=
  if s.requiredVersion.isNone then
    [⟨"missing-required-version", .suggestion, "consider adding a required_version constraint",
      s.location⟩]
  else []

def VariableEntry.findings (e : VariableEntry) : List Finding :=
  if e.hasValidation then []
  else
    [⟨"variable-without-validation", .suggestion,
      "consider adding validation for variable " ++ e.name, e.location⟩]

/-- Everything that is found about a configuration, in the order of locations
  (`lint_configuration`). -/
def Configuration.findings (c : Configuration) : List Finding :=
  (c.resources.values.flatMap ResourceEntry.findings ++
    c.dataSources.values.flatMap ResourceEntry.dataFindings ++
    c.modules.values.flatMap ModuleEntry.findings ++
    c.settings.flatMap Settings.findings ++
    c.inputs.values.flatMap VariableEntry.findings).mergeSort Finding.atMost

/-- How one file fared: whether it could be read, the error if not, and how much was found in it. -/
structure FileStatus where
  path : Path
  valid : Bool
  error : Option String
  warnings : Nat
  suggestions : Nat
deriving DecidableEq, Repr

/-- The findings for a directory, and how each of its files fared, in the order of paths. -/
structure LintReport where
  directory : Path
  files : List FileStatus
  findings : List Finding
deriving Repr

namespace LintReport

def countIn (findings : List Finding) (path : Path) (severity : Severity) : Nat :=
  findings.countP fun f => f.severity == severity && f.location.file.same path

def statusOf (findings : List Finding) (path : Path) : FileStatus :=
  ⟨path, true, none, countIn findings path .warning, countIn findings path .suggestion⟩

/-- The status of a file that could not be read; none for an error that is about no file. -/
def statusOfError? (e : Error) : Option FileStatus :=
  e.file?.map fun path => ⟨path, false, some e.message, 0, 0⟩

/-- The report on an analysis (`from_analysis`): the files that could be read and those that could
  not, together in the order of their paths. -/
def ofAnalysis (a : Analysis) : LintReport :=
  let findings := a.configuration.findings
  let files := a.files.map (statusOf findings) ++ a.parseErrors.filterMap statusOfError?
  ⟨a.directory, files.mergeSort fun s t => s.path.atMost t.path, findings⟩

/-- Whether all files could be read (`all_valid`). -/
def allValid (r : LintReport) : Bool := r.files.all (·.valid)

/-- How many findings have a severity (`count`). -/
def count (r : LintReport) (severity : Severity) : Nat :=
  r.findings.countP fun f => f.severity == severity

end LintReport

end Terralens
