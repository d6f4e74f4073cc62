import Terralens.Dependencies
import Terralens.Document.Read
import Terralens.Extraction

/-!
# Analyses

What the files of a directory define together. A file that is not well formed is set aside with its
error; any other error ends the analysis.

The stages of an analysis stand in modules of their own. Files are found and read in `Scan`
(`load_directory`), parsed in `Document.Read` (`parse_document`), put together in `Extraction`
(`extract_configuration`), and searched for references in `Dependencies` (`list_dependencies`).
What is made of an analysis stands in `Graph` (`from_map`), `Lint` (`from_analysis`), `Report`
(`generate`) and `Prompt` (`user_prompt`).
-/

namespace Terralens

/-- The analysis of the files of a directory. `files` are the well-formed ones in the order given;
  `parseErrors` are those of the others, in the order of their paths. -/
structure Analysis where
  directory : Path
  files : List Path
  configuration : Configuration
  parseErrors : List Error
  dependencies : DependencyMap
deriving Inhabited

namespace Analysis

def hasParseErrors (a : Analysis) : Bool := !a.parseErrors.isEmpty

/-- How many files were looked at, well formed or not (`total_files`). -/
def totalFiles (a : Analysis) : Nat := a.files.length + a.parseErrors.length

def warnings (a : Analysis) : List String := a.configuration.warnings

end Analysis

/-- The values among results, and the errors among them. An error from which the others cannot
  recover is the error of all. -/
def partitionResults {α : Type} : List (Except Error α) → Except Error (List α × List Error)
  | [] => .ok ([], [])
  | .ok a :: rest => do
      let (values, errors) ← partitionResults rest
      pure (a :: values, errors)
  | .error e :: rest =>
      if e.isRecoverable then do
        let (values, errors) ← partitionResults rest
        pure (values, e :: errors)
      else .error e

def readDocuments (files : List SourceFile) : Except Error (List Document × List Error) :=
  partitionResults (files.map SourceFile.document)

/-- The analysis of the given files (`analyze_files`). Files that are not well formed are set aside,
  and the others are extracted as if they had not been given. -/
def analyzeFiles (directory : Path) (files : List SourceFile) : Except Error Analysis := do
  let (documents, errors) ← readDocuments files
  let configuration ← Configuration.ofDocuments documents
  pure {
    directory := directory
    files := documents.map (·.path)
    configuration := configuration
    parseErrors := Error.sortByFile errors
    dependencies := configuration.dependencies }

end Terralens
