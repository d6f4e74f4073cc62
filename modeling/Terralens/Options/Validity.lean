import Terralens.Error
import Terralens.Options
import Terralens.Options.Environment
import Terralens.Text.Basic
import Terralens.Url.Check

/-!
# Valid options

The ranges and forms that options must have, and the ways in which the command line and the
environment change them.
-/

namespace Terralens

namespace ModelOptions

def hostFault? (o : ModelOptions) : Option String :=
  match Url.scheme o.host with
  | .ok scheme =>
      if scheme == "http" || scheme == "https" then none
      else some ("expected an http(s) URL, got scheme '" ++ scheme ++ "'")
  | .error problem => some ("'" ++ o.host ++ "' is not a valid URL: " ++ problem.text)

/-- Whether the name of a model has a tag, with text on either side of the first colon. -/
def hasTag (o : ModelOptions) : Bool :=
  match Text.splitAtChar ':' o.name.toList with
  | some (name, tag) => !name.isEmpty && !tag.isEmpty
  | none => false

end ModelOptions

namespace Options

/-- The first fault of the options: its key and what is wrong. The order of the tests decides which
  one is reported. -/
def fault? (o : Options) : Option (String × String) :=
  if !o.model.temperature.withinZeroAnd 2 then
    some ("model.temperature", "must be between 0.0 and 2.0, got " ++ o.model.temperature.text)
  else if !(1 ≤ o.model.maxTokens && o.model.maxTokens ≤ 8192) then
    some ("model.max_tokens", "must be between 1 and 8192, got " ++ toString o.model.maxTokens)
  else if o.model.timeoutSeconds = 0 then some ("model.timeout_secs", "must be greater than zero")
  else
    match o.model.hostFault? with
    | some detail => some ("model.host", detail)
    | none =>
        if !o.model.hasTag then
          some ("model.name", "expected 'name:tag', got '" ++ o.model.name ++ "'")
        else if o.scan.maxDepth = 0 then some ("scan.max_depth", "must be at least 1")
        else if o.agent.maxContextBytes = 0 then
          some ("agent.max_context_bytes", "must be greater than zero")
        else none

/-- Whether options hold, or the first fault as an error (`validate`). -/
def validate (o : Options) : Except Error Unit :=
  match o.fault? with
  | some (key, detail) => .error (.settingsValue key detail)
  | none => .ok ()

def filled? (value : String → Option String) (name : String) : Option String :=
  (value name).filter fun s => !(Text.trim s.toList).isEmpty

/-- The options with what the environment says of the server and the model
  (`apply_env_overrides`). -/
def override (o : Options) (value : String → Option String) : Options :=
  { o with model := { o.model with
      host := (filled? value "OLLAMA_HOST").getD o.model.host
      name := (filled? value "TFAGENT_MODEL").getD o.model.name } }

end Options

/-- What a command line says of a scan (`ScanArgs`). -/
structure ScanArguments where
  recursive : Bool := false
  exclude : List String := []
  maxDepth : Option Nat := none
deriving DecidableEq, Repr, Inhabited

/-- The options with what a command line says: patterns are added, all else replaces
  (`merge_cli_args`). -/
def Options.withArguments (o : Options) (a : ScanArguments) : Options :=
  { o with scan := { o.scan with
      recursive := o.scan.recursive || a.recursive
      excludePatterns := o.scan.excludePatterns ++ a.exclude
      maxDepth := a.maxDepth.getD o.scan.maxDepth } }

end Terralens
