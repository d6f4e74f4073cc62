import Terralens.CommandLine.Matching
import Terralens.Graph.Export
import Terralens.Options.Environment
import Terralens.Options.Validity
import Terralens.Report.Text

/-!
# Commands

The commands of the program and how a command line names them.
-/

namespace Terralens

/-- What the program is asked to do (`Commands`), with the arguments of each command. -/
inductive Command where
  | analyze (directory : Path) (format : Report.Format) (output : Option Path) (strict : Bool)
      (scan : ScanArguments)
  | deps (directory : Path) (format : GraphFormat) (output : Option Path) (scan : ScanArguments)
  | ask (query : String) (directory : Option Path) (model : Option String)
  | review (directory : Path) (model : Option String)
  | fix (file : Path) (issue : String) (model : Option String)
  | lint (directory : Path) (format : Report.Format) (output : Option Path) (strict : Bool)
      (scan : ScanArguments)
  | interactive (directory : Path) (model : Option String)
  | status
  | init
  | validate (file : Path)
deriving DecidableEq, Repr, Inhabited

/-- A command line: the settings file it names, how much is to be told, and the command. -/
structure Invocation where
  config : Option Path
  verbosity : Nat
  quiet : Bool
  command : Option Command
deriving DecidableEq, Repr, Inhabited

namespace CommandLine

def commonOptions : List Argument := [
  .option "config" (some 'c') .path,
  .switch "verbose" (some 'v') .count,
  .switch "quiet" (some 'q') .enable,
  .switch "help" (some 'h') .help]

def scanArguments : List Argument := [
  .switch "recursive" (some 'r') .enable,
  { name := "exclude", short := some 'e', long := some "exclude", effect := .collect },
  .option "max-depth" none .natural]

def modelOption : Argument := .option "model" (some 'm') .text

def outputArguments (formats : List String) : List Argument :=
  [.option "format" (some 'f') (.oneOf formats), .option "output" (some 'o') .path]

def usageOf : String → Usage
  | "analyze" => ⟨commonOptions ++ outputArguments ["text", "json"] ++
      [.switch "strict" none .enable] ++ scanArguments, [.value "path" .path true], []⟩
  | "deps" => ⟨commonOptions ++ outputArguments ["dot", "json", "mermaid"] ++ scanArguments,
      [.value "path" .path true], []⟩
  | "ask" => ⟨commonOptions ++ [.option "dir" (some 'd') .path, modelOption],
      [.value "query" .text true], []⟩
  | "review" => ⟨commonOptions ++ [modelOption], [.value "path" .path false], []⟩
  | "fix" => ⟨commonOptions ++ [modelOption],
      [.value "file" .path true, .value "issue" .text true], []⟩
  | "lint" => ⟨commonOptions ++ outputArguments ["text", "json"] ++
      [.switch "strict" none .enable] ++ scanArguments, [.value "path" .path false], []⟩
  | "interactive" => ⟨commonOptions ++ [.option "dir" (some 'd') .path, modelOption], [], []⟩
  | "validate" => ⟨commonOptions, [.value "file" .path false], []⟩
  | _ => ⟨commonOptions, [], []⟩

def commandWords : List (String × String) := [
  ("analyze", "analyze"), ("a", "analyze"), ("deps", "deps"), ("d", "deps"), ("ask", "ask"),
  ("review", "review"), ("fix", "fix"), ("lint", "lint"), ("l", "lint"),
  ("interactive", "interactive"), ("i", "interactive"), ("status", "status"), ("init", "init"),
  ("validate", "validate"), ("help", "help")]

def mainUsage : Usage :=
  ⟨commonOptions ++ [.switch "version" (some 'V') .version], [], commandWords⟩

def scanOf (m : Matches) : ScanArguments :=
  ⟨m.has "recursive", m.values "exclude", (m.value? "max-depth").bind natural?⟩

def path? (m : Matches) (name : String) : Option Path := (m.value? name).map Path.mk

def pathOr (m : Matches) (name other : String) : Path := (path? m name).getD ⟨other⟩

def reportFormatOf (m : Matches) : Report.Format :=
  if m.value? "format" == some "json" then .json else .text

def graphFormatOf (m : Matches) : GraphFormat :=
  match m.value? "format" with
  | some "json" => .json
  | some "mermaid" => .mermaid
  | _ => .dot

def commandOf (name : String) (m : Matches) : Command :=
  let model := m.value? "model"
  match name with
  | "analyze" =>
      .analyze (pathOr m "path" "") (reportFormatOf m) (path? m "output") (m.has "strict") (scanOf m)
  | "deps" => .deps (pathOr m "path" "") (graphFormatOf m) (path? m "output") (scanOf m)
  | "ask" => .ask ((m.value? "query").getD "") (path? m "dir") model
  | "review" => .review (pathOr m "path" ".") model
  | "fix" => .fix (pathOr m "file" "") ((m.value? "issue").getD "") model
  | "lint" =>
      .lint (pathOr m "path" ".") (reportFormatOf m) (path? m "output") (m.has "strict") (scanOf m)
  | "interactive" => .interactive (pathOr m "dir" ".") model
  | "init" => .init
  | "validate" => .validate (pathOr m "file" "tfagent.yaml")
  | _ => .status

/-- Why words that ask for help are not carried out: help is shown for the program or for one
  of its commands, and for nothing else. -/
def helpError : List String → UsageError
  | [] => .help
  | [word] => if (List.lookup word commandWords).isSome then .help else .unknownCommand
  | _ => .unknownCommand

/-- What a command and the words before it were given: the common options count where they
  are given with the command, and otherwise where they are given before it. -/
def combine (settings : Option String) (before after : Matches) (command : Option Command) :
    Invocation :=
  let count := fun (m : Matches) => (m.values "verbose").length
  { config := (path? after "config" <|> path? before "config") <|> settings.map Path.mk
    verbosity := min 255 (if after.has "verbose" then count after else count before)
    quiet := after.has "quiet" || before.has "quiet"
    command := command }

/-- What a command line asks for, or why it cannot be carried out (`Cli`). -/
def parse (env : Environment) (words : List String) : Except UsageError Invocation := do
  let settings := env.value? "TFAGENT_CONFIG"
  match ← readWords mainUsage words {} with
  | (p, none) => pure (combine settings (← complete mainUsage settings p) [] none)
  | (p, some (name, rest)) =>
      if name == "help" then throw (helpError rest)
      let usage := usageOf name
      let (q, _) ← readWords usage rest {}
      let after ← complete usage settings q
      let before ← complete mainUsage settings p
      pure (combine settings before after (some (commandOf name after)))

end CommandLine

end Terralens
