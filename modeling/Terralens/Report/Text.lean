import Terralens.Options
import Terralens.Report.Json
import Terralens.Report.Paint
import Terralens.Report.Table

/-!
# Reports as text

What an analysis and a lint run found, for people to read: sections with tables, and a
last line that says how it went. The values of sensitive outputs are never shown.
-/

namespace Terralens.Report

/-- How a report is shown: in colours, with details, and whether warnings make it fail. -/
structure View where
  coloured : Bool
  verbose : Bool
  strict : Bool
deriving DecidableEq, Repr

def line (c : Char) (n : Nat) : String := String.ofList (List.replicate n c)

/-- The title of a section over a line (`section_title`). -/
def sectionTitle (view : View) (title : String) : String :=
  "\n" ++ paint view.coloured .section title ++ "\n" ++ line '-' 80 ++ "\n"

def tableSection (view : View) (title : String) (t : Table) : String :=
  sectionTitle view title ++ t.text ++ "\n"

/-- A text on one line, at most `limit` characters long: of a longer one the start and three points
  (`truncate`). -/
def truncated (limit : Nat) (s : String) : String :=
  let flat := Text.replaceAll ['\n'] [' '] s.toList
  if flat.length ≤ limit then String.ofList flat
  else String.ofList (flat.take (limit - 3) ++ ['.', '.', '.'])

def labelled (view : View) (style : Style) (label text : String) : String :=
  "  [" ++ paint view.coloured style label ++ "] " ++ text ++ "\n"

/-- The head of a report (`format_header`). -/
def header (view : View) (a : Analysis) : String :=
  "\n" ++ paint view.coloured .title "tfagent Analysis" ++ " " ++
    paint view.coloured .faint ("v" ++ version) ++ " " ++
    paint view.coloured .faint ("(" ++ a.directory.text ++ ")") ++ "\n" ++
    paint view.coloured .frame (line '=' 80) ++ "\n"

/-- How many files were read, and how much of each kind is defined (`format_summary`). -/
def summary (view : View) (a : Analysis) : String :=
  let c := a.configuration
  let failed := a.parseErrors.length
  sectionTitle view "Summary" ++
    "  " ++ toString a.files.length ++ " files parsed | " ++
      paint (view.coloured && failed > 0) .failed (toString failed) ++ " failed\n" ++
    "  " ++ toString c.resources.size ++ " resources | " ++
      toString c.dataSources.size ++ " data sources | " ++
      toString c.modules.size ++ " modules | " ++
      toString c.providers.length ++ " providers\n" ++
    "  " ++ toString c.inputs.size ++ " variables | " ++
      toString c.outputs.size ++ " outputs | " ++
      toString c.locals.size ++ " locals | " ++
      toString c.variableValues.size ++ " tfvars values\n" ++
    "  " ++ toString (dependencyCount a.dependencies) ++ " dependency edges\n"

def parseErrorLine : Error → String
  | .malformed file detail line column =>
      let place := match line, column with
        | some l, some c => ":" ++ toString l ++ ":" ++ toString c
        | some l, none => ":" ++ toString l
        | none, _ => ""
      file.text ++ place ++ ": " ++ detail
  | e => e.message

/-- The files that could not be read (`format_parse_errors`). -/
def parseErrors (view : View) (a : Analysis) : String :=
  sectionTitle view "Parse Errors" ++
    String.join (a.parseErrors.map fun e => labelled view .bad "ERROR" (parseErrorLine e))

def warnings (view : View) (a : Analysis) : String :=
  sectionTitle view "Warnings" ++ String.join (a.warnings.map (labelled view .caution "WARNING"))

def resourceRow (address : String) (e : ResourceEntry) : List String :=
  [address, toString (e.attributes.size + e.blocks.length), e.location.short]

/-- The table of resources and data sources (`format_resources`). -/
def resources (view : View) (a : Analysis) : String :=
  let c := a.configuration
  let rows := c.resources.values.map (fun e => resourceRow e.key.text e) ++
    c.dataSources.values.map (fun e => resourceRow ("data." ++ e.key.text) e)
  if rows.isEmpty then ""
  else tableSection view "Resources" ⟨["Address", "Attributes", "Location"], rows⟩

/-- What the table says about the value of a variable: the one given to it, the default, or
  that one is required. -/
def defaultCell (given : Option VariableValue) (default : Option Value) : String :=
  match given, default with
  | some v, _ => truncated 30 v.value.text ++ " (tfvars)"
  | none, some v => truncated 30 v.text
  | none, none => "REQUIRED"

/-- The row of a variable. Whether the variable is sensitive is said, but its default and the value
  given to it are shown all the same. -/
def variableRow (c : Configuration) (e : VariableEntry) : List String :=
  [e.name ++ (if e.sensitive = some true then " (sensitive)" else ""), e.type.getD "any",
    defaultCell (c.variableValues.get? e.name) e.default, e.location.short]

/-- The table of variables (`format_variables`). -/
def variableSection (view : View) (a : Analysis) : String :=
  let c := a.configuration
  if c.inputs.isEmpty then ""
  else
    tableSection view "Variables"
      ⟨["Name", "Type", "Default", "Location"], c.inputs.values.map (variableRow c)⟩

/-- The row of an output; of a sensitive one the value is not shown. -/
def outputRow (e : OutputEntry) : List String :=
  [e.name, if e.sensitive = some true then "(sensitive)" else truncated 45 (e.value.getD ""),
    e.location.short]

/-- The table of outputs (`format_outputs`). -/
def outputs (view : View) (a : Analysis) : String :=
  let c := a.configuration
  if c.outputs.isEmpty then ""
  else tableSection view "Outputs" ⟨["Name", "Value", "Location"], c.outputs.values.map outputRow⟩

def moduleRow (e : ModuleEntry) : List String :=
  [e.name, truncated 45 (e.source.getD "MISSING"), e.version.getD "-", e.location.short]

/-- The table of module calls (`format_modules`). -/
def modules (view : View) (a : Analysis) : String :=
  let c := a.configuration
  if c.modules.isEmpty then ""
  else
    tableSection view "Modules"
      ⟨["Name", "Source", "Version", "Location"], c.modules.values.map moduleRow⟩

def localRow (e : LocalEntry) : List String := [e.name, truncated 45 e.value, e.location.short]

/-- The table of local values, which is shown with details only (`format_locals`). -/
def locals (view : View) (a : Analysis) : String :=
  let c := a.configuration
  if !view.verbose || c.locals.isEmpty then ""
  else tableSection view "Locals" ⟨["Name", "Value", "Location"], c.locals.values.map localRow⟩

/-- The line of an entry and what it depends on; none for an entry without dependencies. -/
def dependencyLine (entry : EntryRef × KeySet EntryRef) : String :=
  if entry.2.isEmpty then ""
  else
    "  " ++ entry.1.text ++ " -> " ++ ", ".intercalate (entry.2.toList.map EntryRef.text) ++ "\n"

/-- What each entry depends on, which is shown with details only (`format_dependencies`). -/
def dependencies (view : View) (a : Analysis) : String :=
  if !view.verbose || a.dependencies.values.all KeyMap.isEmpty then ""
  else
    sectionTitle view "Dependencies" ++ String.join (a.dependencies.entries.map dependencyLine)

/-- The last line, which says how the analysis went (`format_footer`). -/
def footer (view : View) (a : Analysis) : String :=
  let status :=
    if a.hasParseErrors then
      paint view.coloured .failed
        ("FAILED - " ++ toString a.parseErrors.length ++ " file(s) could not be parsed")
    else if !a.warnings.isEmpty then
      if view.strict then paint view.coloured .failed "FAILED - Warnings found"
      else paint view.coloured .caution "PASSED with warnings"
    else if a.configuration.isEmpty then "PASSED - No configuration found"
    else paint view.coloured .good "PASSED - No issues found"
  "\n" ++ status ++ "\n\n"

/-- A part of a report and a line break, or nothing for an empty part. -/
def part (s : String) : String := if s.isEmpty then "" else s ++ "\n"

/-- The whole report on an analysis (`generate`). Sections about which there is nothing to say are
  left out. -/
def analysisText (view : View) (a : Analysis) : String :=
  part (header view a) ++ part (summary view a) ++
    (if a.hasParseErrors then part (parseErrors view a) else "") ++
    (if a.warnings.isEmpty then "" else part (warnings view a)) ++
    part (resources view a) ++ part (variableSection view a) ++ part (outputs view a) ++
    part (modules view a) ++ part (locals view a) ++ part (dependencies view a) ++
    footer view a

def fileRow (s : FileStatus) : List String :=
  [s.path.short, if s.valid then "Valid" else "Invalid", toString s.warnings,
    toString s.suggestions]

def findingLine (view : View) (f : Finding) : String :=
  labelled view (match f.severity with | .warning => .caution | .suggestion => .hint)
    f.severity.text (f.location.short ++ ": " ++ f.message ++ " (" ++ f.code ++ ")")

def lintFooter (view : View) (r : LintReport) : String :=
  let warnings := r.count .warning
  let status :=
    if !r.allValid then paint view.coloured .failed "INVALID - some files could not be parsed"
    else if warnings > 0 && view.strict then
      paint view.coloured .failed ("FAILED - " ++ toString warnings ++ " warning(s)")
    else
      paint view.coloured .good ("VALID - " ++ toString warnings ++ " warning(s), " ++
        toString (r.count .suggestion) ++ " suggestion(s)")
  "\n" ++ status ++ "\n\n"

/-- The whole report on a lint run (`generate_lint`). -/
def lintText (view : View) (r : LintReport) : String :=
  let errors := r.files.filterMap (·.error)
  "\n" ++ paint view.coloured .title "tfagent Validation" ++ " " ++
    paint view.coloured .faint ("(" ++ r.directory.text ++ ")") ++ "\n" ++
    paint view.coloured .frame (line '=' 80) ++ "\n" ++
    tableSection view "Files"
      ⟨["File", "Status", "Warnings", "Suggestions"], r.files.map fileRow⟩ ++
    (if errors.isEmpty then ""
      else
        sectionTitle view "Parse Errors" ++ String.join (errors.map (labelled view .bad "ERROR"))) ++
    (if r.findings.isEmpty then ""
      else
        sectionTitle view "Findings" ++ String.join (r.findings.map (findingLine view))) ++
    lintFooter view r

/-! ### Formats -/

/-- A report is shown as text or as JSON, as the output options ask for it. -/
inductive Format where
  | text
  | json
deriving DecidableEq, Repr, Inhabited

/-- How a report is shown under output options; `terminal` tells whether colours are shown
  at all. -/
def View.ofOptions (o : OutputOptions) (terminal strict : Bool) : View :=
  ⟨o.coloured && terminal, o.verbose, strict⟩

def write (o : OutputOptions) (terminal strict : Bool) (timestamp : String) (a : Analysis) :
    Format → String
  | .text => analysisText (.ofOptions o terminal strict) a
  | .json => writeJson o.pretty (analysisJson timestamp a)

def writeLint (o : OutputOptions) (terminal strict : Bool) (r : LintReport) : Format → String
  | .text => lintText (.ofOptions o terminal strict) r
  | .json => writeJson o.pretty (lintJson r)

end Terralens.Report
