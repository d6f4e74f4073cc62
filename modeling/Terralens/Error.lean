import Terralens.EntryRef
import Terralens.Path

/-!
# Errors

Everything that can go wrong, by its cause. The wording of an error is in one place,
`Error.message`; `Error.exitCode` is what a process that ends with the error answers.
-/

namespace Terralens

inductive FaultKind where
  | denied
  | missing
  | other
deriving DecidableEq, Repr, Inhabited

/-- A fault that the file system reports: what kind it is, as far as it matters here, and its
  text. -/
structure Fault where
  kind : FaultKind
  text : String
deriving DecidableEq, Repr, Inhabited

/-- What went wrong, by its cause (`TfAgentError`). An error keeps what its message names, so that
  reports can show the parts in their own ways. -/
inductive Error where
  | io (path : Path) (fault : Fault)
  | directoryNotFound (path : Path)
  | fileRead (path : Path) (fault : Fault)
  | malformed (file : Path) (detail : String) (line column : Option Nat)
  | incomplete (location : Location) (detail : String)
  | duplicate (kind : EntryKind) (name : String) (first second : Location)
  /-- Settings cannot be read; the cause is the reader's own message. -/
  | settingsSyntax (detail : String) (cause : Option String)
  | settingsValue (key detail : String)
  | modelUnavailable (host detail : String)
  | modelTimeout (host : String) (seconds : Nat)
  | modelResponse (status : Option Nat) (detail : String)
  | report (detail : String)
  | internal (detail : String)
  | multiple (errors : List Error)
deriving Repr, Inhabited

namespace Error

/-- The part of a message that says where a file is malformed (`format_position`). -/
def positionText : Option Nat → Option Nat → String
  | some line, some column => " at line " ++ toString line ++ ", column " ++ toString column
  | some line, none => " at line " ++ toString line
  | none, _ => ""

/-- The first part of what an error says, and what goes on behind a colon. -/
def parts : Error → String × Option String
  | .io path fault => ("I/O error at '" ++ path.text ++ "'", some fault.text)
  | .directoryNotFound path => ("Directory not found: " ++ path.text, none)
  | .fileRead path fault => ("Failed to read '" ++ path.text ++ "'", some fault.text)
  | .malformed file detail line column =>
      ("Failed to parse HCL in '" ++ file.text ++ "'" ++ positionText line column, some detail)
  | .incomplete location detail => ("Invalid HCL structure at " ++ location.text, some detail)
  | .duplicate kind name first second =>
      ("Duplicate " ++ kind.text ++ " '" ++ name ++ "' defined at " ++ first.text ++ " and " ++
        second.text, none)
  | .settingsSyntax detail _ => ("Failed to parse configuration", some detail)
  | .settingsValue key detail => ("Invalid configuration value for '" ++ key ++ "'", some detail)
  | .modelUnavailable host detail =>
      ("Model server at '" ++ host ++ "' is unavailable", some detail)
  | .modelTimeout host seconds =>
      ("Model server at '" ++ host ++ "' timed out after " ++ toString seconds ++ "s", none)
  | .modelResponse _ detail => ("Model server returned an error", some detail)
  | .report detail => ("Failed to generate report", some detail)
  | .internal detail => ("Internal error", some detail)
  | .multiple errors => ("Multiple errors occurred (" ++ toString errors.length ++ " total)", none)

/-- Whether an error only stands for others. -/
def isCollection : Error → Bool
  | .multiple _ => true
  | _ => false

/-- What an error says, with a note behind its first part. An error that stands for others
  has no note of its own. -/
def messageWith (note : String) (e : Error) : String :=
  let (first, detail) := e.parts
  first ++ (if e.isCollection then "" else note) ++ (detail.map fun text => ": " ++ text).getD ""

def message (e : Error) : String := e.messageWith ""

/-- Whether only the one file is affected, so that the others can still be used
  (`is_recoverable`). -/
def isRecoverable : Error → Bool
  | .malformed .. => true
  | _ => false

/-- The file that an error is about (`file`). An error about two places is about neither of their
  files. -/
def file? : Error → Option Path
  | .io path _ => some path
  | .directoryNotFound path => some path
  | .fileRead path _ => some path
  | .malformed file _ _ _ => some file
  | .incomplete location _ => some location.file
  | _ => none

/-- What a process that ends with the error answers (`exit_code`). -/
def exitCode : Error → Nat
  | .io _ fault => if fault.kind = .denied then 13 else 1
  | .fileRead _ fault => if fault.kind = .denied then 13 else 14
  | .directoryNotFound _ => 15
  | .settingsSyntax .. => 18
  | .settingsValue .. => 19
  | .multiple _ => 21
  | .incomplete .. => 22
  | .duplicate .. => 23
  | .modelUnavailable .. => 24
  | .modelResponse .. => 24
  | .modelTimeout .. => 25
  | _ => 1

def cause? : Error → Option String
  | .io _ fault => some fault.text
  | .fileRead _ fault => some fault.text
  | .settingsSyntax _ cause => cause
  | _ => none

def ofFault (fault : Fault) : Error := .io ⟨""⟩ fault

def ofText (path : Path) (detail : String) : Error := .io path ⟨.other, detail⟩

def ofJson (detail : String) : Error :=
  .internal ("JSON serialization/deserialization error: " ++ detail)

/-- No error, the only one, or all of them as one (`collect`). -/
def collect : List Error → Except Error Unit
  | [] => .ok ()
  | [e] => .error e
  | errors => .error (.multiple errors)

/-- Errors without a file come first, then by the path of the file. -/
def atMost (a b : Error) : Bool :=
  match a.file?, b.file? with
  | none, _ => true
  | some _, none => false
  | some p, some q => p.atMost q

/-- The errors in the order of their files, those of one file in the order given (`into_sorted`). -/
def sortByFile (errors : List Error) : List Error := errors.mergeSort atMost

end Error

end Terralens
