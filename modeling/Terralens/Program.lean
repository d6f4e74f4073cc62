import Terralens.CommandLine.Command
import Terralens.Options.Example
import Terralens.Options.Load
import Terralens.Session

/-!
# The program

What each command does with a file system, an environment and the lines of its input: what
it prints, what it writes, and the number with which it ends.
-/

namespace Terralens

structure Surroundings where
  files : FileSystem
  environment : Environment
  /-- The working directory, as messages name it. -/
  directory : Path
  input : String
  timestamp : String
  server : ModelOptions → ModelServer

/-- What a run of the program leaves: the number with which it ends, what it printed and
  reported, and the file it wrote with its text. -/
structure Outcome where
  exitCode : Nat
  output : String
  errors : String
  written : Option (Path × String)
deriving DecidableEq, Repr, Inhabited

inductive Failure where
  | error (e : Error)
  | fault (f : Fault)
  | taken (file : Path)
deriving Inhabited

namespace Failure

def text : Failure → String
  | .error e => e.message
  | .fault f => f.text
  | .taken file => "Configuration file already exists: " ++ file.text

def exitCode : Failure → Nat
  | .error e => e.exitCode
  | _ => 1

def cause? : Failure → Option String
  | .error e => e.cause?
  | _ => none

def report (f : Failure) : String :=
  "Error: " ++ f.text ++ "\n" ++
    (f.cause?.map fun cause => "\nCaused by:\n  0: " ++ cause ++ "\n").getD ""

end Failure

namespace Program

/-- What a command did so far: what it printed, what it reported, and the file it wrote. -/
structure Effects where
  output : String := ""
  errors : String := ""
  written : Option (Path × String) := none
deriving DecidableEq, Repr, Inhabited

namespace Effects

def finish (e : Effects) (exitCode : Nat) : Outcome := ⟨exitCode, e.output, e.errors, e.written⟩

def put (e : Effects) (text : String) : Effects := { e with output := e.output ++ text }

def print (e : Effects) (text : String) : Effects := e.put (text ++ "\n")

def report (e : Effects) (text : String) : Effects := { e with errors := e.errors ++ text ++ "\n" }

/-- Writes a text to a file when one is named, and prints it otherwise. -/
def emit (e : Effects) (files : FileSystem) (text : String) : Option Path → Except Failure Effects
  | none => .ok (e.print text)
  | some file =>
      match files.write file text with
      | .ok _ => .ok { e with written := some (file, text) }
      | .error fault => .error (.fault fault)

end Effects

def lift {α : Type} : Except Error α → Except Failure α
  | .ok a => .ok a
  | .error e => .error (.error e)

/-- The options with a model named on the command line (`override_model`). -/
def withModel (o : Options) : Option String → Except Failure Options
  | none => .ok o
  | some name =>
      let o := { o with model := { o.model with name := name } }
      lift (o.validate.map fun _ => o)

/-- The options for a report; one that goes to a file has no colours. -/
def withOutput (o : Options) (output : Option Path) : Options :=
  if output.isSome then { o with output := { o.output with coloured := false } } else o

/-- Reports on a directory. A report is given even when files were set aside, and the number at the
  end tells it. -/
def analyze (s : Surroundings) (o : Options) (directory : Path) (format : Report.Format)
    (output : Option Path) (strict : Bool) : Except Failure Outcome := do
  let a ← lift (analyzeDirectory s.files o directory)
  let text := Report.write o.output false strict s.timestamp a format
  let e ← Effects.emit {} s.files text output
  pure (e.finish (if a.hasParseErrors then 2 else if strict && !a.warnings.isEmpty then 1 else 0))

/-- Exports the dependencies of a directory as a graph. What was set aside is reported even
  when the graph cannot be written. -/
def deps (s : Surroundings) (o : Options) (directory : Path) (format : GraphFormat)
    (output : Option Path) : Except Failure Outcome := do
  let a ← lift (analyzeDirectory s.files o directory)
  let warnings := a.parseErrors.map fun error => "warning: " ++ error.message
  let e := warnings.foldl Effects.report {}
  match e.emit s.files ((Graph.ofDependencies a.dependencies).write format) output with
  | .ok e => pure (e.finish (if a.hasParseErrors then 2 else 0))
  | .error f => pure ({ e with errors := e.errors ++ f.report }.finish f.exitCode)

def lint (s : Surroundings) (o : Options) (directory : Path) (format : Report.Format)
    (output : Option Path) (strict : Bool) : Except Failure Outcome := do
  let r := LintReport.ofAnalysis (← lift (analyzeDirectory s.files o directory))
  let e ← Effects.emit {} s.files (Report.writeLint o.output false strict r format) output
  pure (e.finish (if !r.allValid then 2 else if strict && r.count .warning > 0 then 1 else 0))

/-- How many lines of a review are of each kind; nothing when none is (`print_findings`). -/
def findingsText (f : ReviewFindings) : String :=
  if f.isEmpty then ""
  else
    "\nReview: " ++ toString f.suggestions.length ++ " suggestion(s), " ++
      toString f.issues.length ++ " issue(s), " ++
      toString f.improvements.length ++ " improvement(s)\n"

def answered (a : Asked) (more : Answer → Effects → Effects) : Except Failure Outcome := do
  let answer ← lift a.answer
  pure ((more answer (Effects.print {} answer.text)).finish 0)

def noteMissingCode (a : Answer) (e : Effects) : Effects :=
  if a.codeBlocks.isEmpty then e.report "! no Terraform code block in the answer" else e

def status (s : Surroundings) (o : Options) : Except Failure Outcome := do
  let server := s.server o.model
  let name := o.model.name
  if !server.healthy then
    throw (.error (.modelUnavailable server.host "no answer from /api/tags"))
  let models ← lift server.models
  let e : Effects := {}
  let e := (e.print ("✓ Model server at " ++ server.host ++ " is up")).print
    ("Configured model: " ++ name)
  let e := if models.isEmpty then e.print "No models installed"
    else models.foldl (fun (e : Effects) model =>
      e.print ((if model == name then "  * " else "    ") ++ model)) (e.print "Installed models:")
  let e := if models.contains name then e
    else e.print ("! '" ++ name ++ "' is not installed. Run: ollama pull " ++ name)
  pure (e.finish 0)

def settingsFile : Path := ⟨"tfagent.yaml"⟩

def init (s : Surroundings) : Except Failure Outcome := do
  if s.files.exists? settingsFile then throw (.taken settingsFile)
  let e ← Effects.emit {} s.files exampleOptions (some settingsFile)
  pure ((e.print "Created example configuration: tfagent.yaml").finish 0)

def validate (s : Surroundings) (file : Path) : Outcome :=
  let e : Effects := {}
  match Options.ofFile s.files s.environment file with
  | .ok _ => (e.print ("Configuration is valid: " ++ file.text)).finish 0
  | .error error => (e.report ("Configuration error: " ++ error.message)).finish 1

/-! ### Sessions -/

def greeting (directory : Path) : String :=
  "tfagent interactive mode over " ++ directory.text ++
    "\nType 'help' for commands, 'quit' to exit.\n"

def promptText : String := "\nyou> "

def showReply (e : Effects) : Except Error Reply → Effects
  | .ok .quit => e
  | .ok .empty => e
  | .ok (.text text) => e.print text
  | .ok (.answer a) => e.print a.text
  | .error error => e.report ("Error: " ++ error.message)

def endsSession : Except Error Reply → Bool
  | .ok .quit => true
  | _ => false

/-- Reads lines until the input or the session ends (`interactive`). -/
def converse (session : Session) : ModelServer → List String → Effects → Effects
  | _, [], e => (e.put promptText).put "\n"
  | server, line :: rest, e =>
      let turn := session.handle server line
      let e := showReply (e.put promptText) turn.reply
      if endsSession turn.reply then e else converse session turn.server rest e

def interactive (s : Surroundings) (o : Options) (directory : Path) : Outcome :=
  (converse ⟨s.files, o, directory⟩ (s.server o.model) (Text.linesOf s.input)
    (Effects.put {} (greeting directory))).finish 0

/-! ### Runs -/

/-- Carries out a command (`run`). -/
def perform (s : Surroundings) (o : Options) : Command → Except Failure Outcome
  | .analyze directory format output strict scan =>
      analyze s (withOutput (o.withArguments scan) output) directory format output strict
  | .deps directory format output scan => deps s (o.withArguments scan) directory format output
  | .lint directory format output strict scan =>
      lint s (withOutput (o.withArguments scan) output) directory format output strict
  | .ask query directory model => do
      let o ← withModel o model
      answered (Terralens.ask s.files o (s.server o.model) query directory) fun _ e => e
  | .review directory model => do
      let o ← withModel o model
      answered (Terralens.review s.files o (s.server o.model) directory) fun a e =>
        e.put (findingsText a.findings)
  | .fix file issue model => do
      let o ← withModel o model
      answered (suggestFix s.files o (s.server o.model) file issue) noteMissingCode
  | .interactive directory model => do
      let o ← withModel o model
      pure (interactive s o directory)
  | .status => status s o
  | .init => init s
  | .validate file => .ok (validate s file)

/-- The command that is carried out when none is named: a session over the working
  directory. -/
def defaultCommand : Command := .interactive ⟨"."⟩ none

def carryOut (s : Surroundings) (i : Invocation) : Except Failure Outcome := do
  let o ← lift (Options.load s.files s.environment i.config s.directory)
  perform s o (i.command.getD defaultCommand)

def refuse : CommandLine.UsageError → Outcome
  | .help => ⟨0, "Usage: tfagent [OPTIONS] [COMMAND]\n", "", none⟩
  | .version => ⟨0, "tfagent " ++ version ++ "\n", "", none⟩
  | e => ⟨e.exitCode, "", "error: the command line is not valid\n", none⟩

/-- What a run of the program leaves (`main`). -/
def run (s : Surroundings) (words : List String) : Outcome :=
  match CommandLine.parse s.environment words with
  | .error e => refuse e
  | .ok invocation =>
      match carryOut s invocation with
      | .ok outcome => outcome
      | .error f => ⟨f.exitCode, "", f.report, none⟩

end Program

end Terralens
