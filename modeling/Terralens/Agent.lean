import Terralens.Answer
import Terralens.ModelServer
import Terralens.Prompt
import Terralens.Scan

/-!
# Questions to a model

A question is sent with what is known of a directory, or with the text of a file that is to
be fixed. When the directory or the file cannot be read, nothing is sent.
-/

namespace Terralens

/-- How a question went: the answer, the request that was sent, and the server after it. -/
structure Asked where
  answer : Except Error Answer
  request : Option Request
  server : ModelServer
deriving Inhabited

namespace Asked

def failed (server : ModelServer) (e : Error) : Asked := ⟨.error e, none, server⟩

def sent (server : ModelServer) (request : Request) : Asked :=
  let (text, server) := server.generate
  ⟨text.map Answer.ofText, some request, server⟩

end Asked

/-- The analysis of a directory (`analyze_directory`). -/
def analyzeDirectory (s : FileSystem) (o : Options) (directory : Path) : Except Error Analysis := do
  analyzeFiles directory (← loadDirectory s o.scan directory)

/-- What is known of a directory (`gather_context`). -/
def gatherContext (s : FileSystem) (o : Options) (directory : Path) :
    Except Error Prompt.Context := do
  let files ← loadDirectory s o.scan directory
  let analysis ← analyzeFiles directory files
  pure { files := files, analysis := analysis }

def promptRequest (o : Options) (prompt : String) : Request :=
  Request.ofOptions o.model prompt (some (Prompt.system o.agent))

/-- Asks a question, with what is known of a directory when one is given (`ask`). -/
def ask (s : FileSystem) (o : Options) (server : ModelServer) (query : String)
    (directory : Option Path) : Asked :=
  match directory.mapM (gatherContext s o) with
  | .ok context => .sent server (promptRequest o (Prompt.user o.agent query context))
  | .error e => .failed server e

/-- Asks for a review of a directory (`review`). -/
def review (s : FileSystem) (o : Options) (server : ModelServer) (directory : Path) : Asked :=
  ask s o server Prompt.reviewInstruction (some directory)

/-- Asks for a fix of one file (`suggest_fix`). -/
def suggestFix (s : FileSystem) (o : Options) (server : ModelServer) (path : Path)
    (issue : String) : Asked :=
  match s.readSource path with
  | .ok file => .sent server (promptRequest o (Prompt.fix o.agent file issue))
  | .error e => .failed server e

end Terralens
