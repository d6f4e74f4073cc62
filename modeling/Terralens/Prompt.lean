import Terralens.Analysis
import Terralens.Graph
import Terralens.Options
import Terralens.Report.Json
import Terralens.Text.Basic

/-!
# Prompts

The texts a model is sent. The system prompt says what the assistant is and how it answers.
A user prompt holds the question and, for a directory, the text of its files up to a budget
and what the analysis found. A fix prompt holds one file.
-/

namespace Terralens.Prompt

def reviewInstruction : String :=
  "Please review this Terraform configuration and provide suggestions for improvements, " ++
    "security best practices, and potential issues."

/-- Each item on a line of its own behind a dash (`push_list`). -/
def bullets (items : List String) : String :=
  String.join (items.map fun item => "- " ++ item ++ "\n")

/-- What the assistant is, what it knows and how it answers (`system_prompt`). -/
def system (o : AgentOptions) : String :=
  "You are tfagent " ++ version ++ ", an assistant for Terraform infrastructure as code " ++
    "running against a local model.\n\nCAPABILITIES:\n" ++
  bullets [
    "Write and explain Terraform configurations",
    "Review existing code for correctness and security",
    "Explain resource dependencies and data flow",
    "Suggest provider and module best practices",
    "Troubleshoot syntax and planning errors"] ++
  "\nTERRAFORM KNOWLEDGE:\n" ++
  bullets [
    "Reference documentation: https://developer.hashicorp.com/terraform",
    "Documentation is current as of " ++ o.docsSnapshot,
    "Target Terraform >= 1.0 syntax and best practices",
    "Never claim to have run terraform plan or apply"] ++
  "\nRESPONSE FORMAT:\n" ++
  bullets [
    "Answer the question directly before going into detail",
    "Put Terraform code in \x60\x60\x60hcl fenced blocks",
    "Refer to files and line numbers when discussing the user's code",
    "Say so when something cannot be determined from the given files"] ++
  "\nCODE REVIEW GUIDELINES:\n" ++
  bullets [
    "Check for security best practices",
    "Validate syntax and structure",
    "Suggest performance optimizations",
    "Ensure proper resource naming conventions",
    "Verify provider configurations",
    "Check for potential cost optimizations"]

/-! ### Files within a budget -/

/-- What a prompt holds of a file: the start of its text, or nothing once the budget is
  used up. -/
structure Excerpt where
  file : SourceFile
  kept : Option String
deriving Repr

/-- What is kept of each file; every byte kept is taken from the budget. Once the budget is used up,
  nothing is kept of the files that follow, not even of empty ones. -/
def excerpts : Nat → List SourceFile → List Excerpt
  | _, [] => []
  | 0, file :: rest => ⟨file, none⟩ :: excerpts 0 rest
  | budget + 1, file :: rest =>
      let kept := Text.withinBytes (budget + 1) file.text
      ⟨file, some kept⟩ :: excerpts (budget + 1 - kept.utf8ByteSize) rest

/-- The kept start of a text under the name of its file; a mark tells that it is cut. -/
def contentText (name text kept : String) : String :=
  "FILE: " ++ name ++ "\nCONTENT:\n" ++ String.ofList (Text.trimRight kept.toList) ++ "\n" ++
    (if kept.utf8ByteSize < text.utf8ByteSize then "... (truncated)\n" else "")

def Excerpt.text (directory : Path) (e : Excerpt) : String :=
  let name := ((Path.below? directory e.file.path).getD e.file.path).text
  match e.kept with
  | none => "FILE: " ++ name ++ " (omitted, context limit reached)\n\n"
  | some kept => contentText name e.file.text kept ++ "\n"

/-- The text of the files of a directory within a budget (`push_files`). -/
def filesText (budget : Nat) (directory : Path) (files : List SourceFile) : String :=
  String.join ((excerpts budget files).map (Excerpt.text directory))

/-! ### What the analysis found -/

def listing (title : String) (lines : List String) : String :=
  if lines.isEmpty then "" else title ++ ":\n" ++ bullets lines ++ "\n"

/-- Entries by their names (`join`). -/
def entriesText (entries : List EntryRef) : String :=
  ", ".intercalate (entries.map (·.text))

/-- How many files and entries there are (`push_summary`). -/
def summary (a : Analysis) : String :=
  let c := a.configuration
  listing "ANALYSIS SUMMARY" [
    "Total files: " ++ toString a.totalFiles,
    "Resources: " ++ toString c.resources.size,
    "Data sources: " ++ toString c.dataSources.size,
    "Providers: " ++ toString c.providers.length,
    "Modules: " ++ toString c.modules.size,
    "Variables: " ++ toString c.inputs.size,
    "Outputs: " ++ toString c.outputs.size,
    "Locals: " ++ toString c.locals.size]

def resourceLine (g : Graph) (e : ResourceEntry) : String :=
  let dependents := g.dependentsOf (EntryRef.resource e.key)
  e.key.text ++ " (" ++ e.location.text ++ ")" ++
    (if dependents.isEmpty then "" else ", referenced by " ++ entriesText dependents)

/-- A variable, its type, and the value it has or that it needs one. -/
def variableLine (c : Configuration) (e : VariableEntry) : String :=
  e.name ++ (e.type.map fun type => ": " ++ type).getD "" ++
    (match c.variableValues.get? e.name, e.default with
      | some assigned, _ => " = " ++ assigned.value.text ++ " (tfvars)"
      | none, some value => " = " ++ value.text
      | none, none => " (required)") ++
    (if e.sensitive == some true then " [sensitive]" else "")

def outputLine (e : OutputEntry) : String := e.name ++ " = " ++ e.value.getD "(no value)"

/-- An entry and what it refers to; `none` when that is nothing. -/
def dependencyLine? (source : EntryRef) (targets : List EntryRef) : Option String :=
  if targets.isEmpty then none else some (source.text ++ " -> " ++ entriesText targets)

/-- Where a file is malformed, or what else an error says (`push_parse_errors`). -/
def errorLine (note : String) : Error → String
  | .malformed file detail (some line) _ => file.text ++ ":" ++ toString line ++ ": " ++ detail
  | .malformed file detail none _ => file.text ++ ": " ++ detail
  | e => e.messageWith note

/-! ### Prompts -/

/-- What is known of a directory. A note goes with errors that are not about the form of a
  file. -/
structure Context where
  files : List SourceFile
  analysis : Analysis
  note : String := ""

/-- What a prompt says of a directory: its files, and then what the analysis found (`push_entries`,
  `push_dependencies`). -/
def contextText (o : AgentOptions) (context : Context) : String :=
  let a := context.analysis
  let c := a.configuration
  let g := Graph.ofDependencies a.dependencies
  "\nWORKING DIRECTORY: " ++ a.directory.text ++ "\n" ++
  "TERRAFORM FILES FOUND: " ++ toString context.files.length ++ "\n\n" ++
  filesText o.maxContextBytes a.directory context.files ++
  summary a ++
  listing "RESOURCES" (c.resources.values.map (resourceLine g)) ++
  listing "VARIABLES" (c.inputs.values.map (variableLine c)) ++
  listing "OUTPUTS" (c.outputs.values.map outputLine) ++
  listing "DEPENDENCIES" (a.dependencies.entries.filterMap fun (source, targets) =>
    dependencyLine? source targets.toList) ++
  listing "PARSE ERRORS" (a.parseErrors.map (errorLine context.note))

/-- A question, with what is known of a directory when there is one (`user_prompt`). -/
def user (o : AgentOptions) (query : String) (context : Option Context) : String :=
  "User Query: " ++ query ++ "\n" ++ (context.map (contextText o)).getD ""

/-- A question for a fix of one file, whose text is kept within the whole budget (`fix_prompt`). -/
def fix (o : AgentOptions) (file : SourceFile) (issue : String) : String :=
  "User Query: Please suggest specific fixes for this issue in the Terraform file " ++
    file.path.text ++ ": " ++ issue ++
    "\nReturn the corrected configuration in a \x60\x60\x60hcl block.\n\n" ++
  contentText file.path.text file.text (Text.withinBytes o.maxContextBytes file.text)

end Terralens.Prompt
