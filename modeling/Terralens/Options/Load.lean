import Terralens.Files.System
import Terralens.Options.Read
import Terralens.Options.Validity

/-!
# Loading options

Where options come from: a file that is named, or else the first of the usual ones, or else
the defaults. The environment is applied last.
-/

namespace Terralens

/-- The names of an options file in a directory, in the order in which they are looked for. -/
def optionNames : List String := ["tfagent.yaml", "tfagent.yml", ".tfagent.yaml"]

def userDirectory? (env : Environment) : Option Path :=
  match (env.value? "XDG_CONFIG_HOME").filter fun d => Path.isAbsolute ⟨d⟩ with
  | some d => some ⟨d⟩
  | none => ((env.value? "HOME").filter fun d => !d.isEmpty).map fun d => Path.join ⟨d⟩ ".config"

def optionPlaces (env : Environment) (directory : Path) : List Path :=
  optionNames.map directory.join ++
    ((userDirectory? env).map fun d => (d.join "tfagent").join "config.yaml").toList

/-- The options file to be read, if any (`discover`). -/
def optionFile? (s : FileSystem) (env : Environment) (explicit : Option Path) (directory : Path) :
    Option Path :=
  explicit <|> (optionPlaces env directory).find? s.isFile

/-- The options in a file, once they are valid (`from_file`). -/
def Options.ofFile (s : FileSystem) (env : Environment) (p : Path) : Except Error Options := do
  match s.read p with
  | .error fault => .error (.fileRead p fault)
  | .ok text =>
      let options ← Options.read env text
      options.validate
      pure options

/-- The options that hold for a run (`load`). They are valid with what the environment says, and
  those of a file also without it. -/
def Options.load (s : FileSystem) (env : Environment) (explicit : Option Path) (directory : Path) :
    Except Error Options := do
  let options ← match optionFile? s env explicit directory with
    | some p => Options.ofFile s env p
    | none => .ok {}
  -- The file has passed its own test by now; the environment may still break the options.
  let options := options.override env.value?
  options.validate
  pure options

end Terralens
