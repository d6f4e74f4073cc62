import Terralens.Error
import Terralens.Options
import Terralens.Url.Check

/-!
# Model servers

What is asked of a model server, and what one answers. A server that is a script gives its
answers in order; one that cannot be reached gives none.
-/

namespace Terralens

/-- What a model is sent: the prompt, what goes before it, and how the model is to answer
  (`GenerationRequest`). -/
structure Request where
  model : String
  prompt : String
  system : Option String
  temperature : Temperature
  maxTokens : Nat
deriving DecidableEq, Repr, Inhabited

/-- The request for an answer under the options (`from_config`, `with_system`). -/
def Request.ofOptions (o : ModelOptions) (prompt : String) (system : Option String) : Request :=
  ⟨o.name, prompt, system, o.temperature, o.maxTokens⟩

/-- A server: its name, whether it is up, the models it has, its answers to the next requests
  and its answer to any further one. -/
structure ModelServer where
  host : String
  healthy : Bool
  models : Except Error (List String)
  answers : List (Except Error String)
  further : Except Error String
deriving Inhabited

namespace ModelServer

def generate (s : ModelServer) : Except Error String × ModelServer :=
  match s.answers with
  | [] => (s.further, s)
  | answer :: rest => (answer, { s with answers := rest })

/-- The name of the server at an address, which ends in no slash. -/
def hostOf (address : String) : String :=
  String.ofList (address.toList.reverse.dropWhile (· == '/')).reverse

/-- The error of a request to an address where nobody answers, or to a text that is no address
  (`request_error`). -/
def unreachableError (host path : String) : Error :=
  match Url.scheme (host ++ path) with
  | .ok _ => .modelUnavailable host "error sending request"
  | .error problem => .modelResponse none ("builder error: " ++ problem.text)

def unreachable (o : ModelOptions) : ModelServer :=
  let host := hostOf o.host
  ⟨host, false, .error (unreachableError host "/api/tags"), [],
    .error (unreachableError host "/api/generate")⟩

end ModelServer

end Terralens
