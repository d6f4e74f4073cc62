import Terralens.Agent
import Terralens.Report.Text

/-!
# Sessions

A conversation over a working directory, line by line. A line is one of a few commands or
else a question for the model.
-/

namespace Terralens

/-- What a line leads to: the end of the session, nothing, a text, or an answer of the model. -/
inductive Reply where
  | quit
  | empty
  | text (text : String)
  | answer (answer : Answer)
deriving DecidableEq, Repr, Inhabited

/-- How a line went: the reply, the request that was sent, and the server after it. -/
structure Turn where
  reply : Except Error Reply
  request : Option Request
  server : ModelServer
deriving Inhabited

namespace Turn

def plain (server : ModelServer) (reply : Reply) : Turn := ⟨.ok reply, none, server⟩

def ofAsked (a : Asked) : Turn := ⟨a.answer.map Reply.answer, a.request, a.server⟩

end Turn

structure Session where
  files : FileSystem
  options : Options
  directory : Path
deriving Inhabited

namespace Session

def help : String :=
  "Available commands:\n" ++
  "  help                  Show this help message\n" ++
  "  status                Show model server and configuration status\n" ++
  "  analyze               Analyze the Terraform files in the working directory\n" ++
  "  fix <file> <issue>    Ask for a fix to an issue in one file\n" ++
  "  quit | exit | q       Leave the session\n" ++
  "\n" ++
  "Anything else is sent to the model as a question, for example:\n" ++
  "  Create a VPC with public and private subnets\n" ++
  "  What's wrong with my main.tf file?\n" ++
  "  How do I use Terraform modules?"

def modelStatus (name : String) : Except Error (List String) → String
  | .ok models =>
      toString models.length ++ " installed model(s), " ++
        (if models.contains name then "configured model available"
        else "'" ++ name ++ "' is not installed. Run: ollama pull " ++ name)
  | .error e => "Could not list models: " ++ e.message

/-- The working directory, the configured model and whether the server has it (`status`). -/
def status (s : Session) (server : ModelServer) : String :=
  let name := s.options.model.name
  "Working directory: " ++ s.directory.text ++ "\n" ++
  "Configured model: " ++ name ++ "\n" ++
  "Model server at " ++ server.host ++
  (if server.healthy then " is up\n" ++ modelStatus name server.models else " is not answering")

/-- The report on the working directory, without colours (`analyze`). -/
def analyze (s : Session) : Except Error String :=
  (analyzeDirectory s.files s.options s.directory).map fun a =>
    Report.write s.options.output false false "" a .text

/-- The file and the issue of a command for a fix; none unless both are there (`fix`). -/
def fixArguments? (rest : List Char) : Option (String × String) :=
  match Text.splitAtBlank rest with
  | none => none
  | some (file, issue) =>
      let issue := Text.trim issue
      if issue.isEmpty then none else some (String.ofList file, String.ofList issue)

inductive Command where
  | nothing
  | quit
  | help
  | status
  | analyze
  | fix (arguments : List Char)
  | question
deriving DecidableEq, Repr

/-- The command a line starts with, in letters of either case, and the rest of the line. A command
  other than a fix stands alone; behind it anything more makes the line a question. -/
def commandOf (line : List Char) : Command :=
  let (word, rest) := match Text.splitAtBlank line with
    | some (word, rest) => (word, Text.trim rest)
    | none => (line, [])
  let word := String.ofList (Text.lowered word)
  if word == "" then .nothing
  else if word == "fix" then .fix rest
  else if !rest.isEmpty then .question
  else if ["quit", "exit", "q"].contains word then .quit
  else if word == "help" then .help
  else if word == "status" then .status
  else if word == "analyze" then .analyze
  else .question

/-- How one line goes (`handle`). Only questions and well-formed commands for a fix may send a
  request. -/
def handle (s : Session) (server : ModelServer) (line : String) : Turn :=
  let line := Text.trim line.toList
  match commandOf line with
  | .nothing => .plain server .empty
  | .quit => .plain server .quit
  | .help => .plain server (.text help)
  | .status => .plain server (.text (s.status server))
  | .analyze => ⟨s.analyze.map Reply.text, none, server⟩
  | .fix arguments =>
      match fixArguments? arguments with
      | some (file, issue) =>
          .ofAsked (suggestFix s.files s.options server (s.directory.join file) issue)
      | none => .plain server (.text "Usage: fix <file> <issue>")
  | .question =>
      .ofAsked (ask s.files s.options server (String.ofList line) (some s.directory))

/-- How lines go one after the other, each with the server as the one before left it. -/
def handleAll (s : Session) : ModelServer → List String → List Turn
  | _, [] => []
  | server, line :: rest =>
      let turn := s.handle server line
      turn :: s.handleAll turn.server rest

end Session

end Terralens
