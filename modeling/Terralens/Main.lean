import Terralens.Program
import Terralens.Report.Timestamp

/-!
# Running the program

The program is a function of what a run finds around it. Here that is looked up: the
environment, the files and directories that the command line names, and the time. What the
run leaves is then printed and written.
-/

namespace Terralens.Shell

def environment : IO Environment := do
  try
    let text := (String.fromUTF8? (← IO.FS.readBinFile "/proc/self/environ")).getD ""
    pure ((Text.pieces '\x00' text.toList).filterMap fun setting =>
      (Text.splitAtChar '=' setting).map fun (name, value) =>
        (String.ofList name, String.ofList value))
  catch _ => pure []

def timestamp : IO String := do
  try
    let started := (← (← IO.FS.realPath "/proc/self").metadata).modified
    pure (Report.timestampText started.sec.toNat started.nsec.toNat)
  catch _ => pure (Report.timestampText 0 0)

def faultOf : IO.Error → Fault
  | .permissionDenied .. => .denied
  | e => ⟨.other, toString e⟩

def observeFile (contents : IO ByteArray) : IO FileTree := do
  try pure (.file (← contents)) catch e => pure (.unreadable (faultOf e))

/-- The entries of a directory down to so many levels, without those that are passed over; of
  files that are not looked at, only that they are there. -/
def observeEntries (o : ScanOptions) : Nat → String → IO (List (String × FileTree))
  | 0, _ => pure []
  | levels + 1, path => do
      let listed := (← (← IO.FS.realPath path).readDir).toList.filter fun e => !o.skips e.fileName
      listed.foldlM (fun entries entry => do
        let name := entry.fileName
        match (← entry.path.symlinkMetadata).type with
        | .dir =>
            let below ← observeEntries o levels (path ++ "/" ++ name)
            pure (insertEntry name (.directory below) entries)
        | .file =>
            let file ← observeFile
              (if isConfigurationName name then IO.FS.readBinFile entry.path else pure .empty)
            pure (insertEntry name file entries)
        | _ => pure entries) []

def observe (o : ScanOptions) (levels : Nat) (path : String) : IO (Option FileTree) := do
  try
    match (← (← IO.FS.realPath path).metadata).type with
    | .dir => pure (some (.directory (← observeEntries o levels path)))
    | .file => pure (some (← observeFile (IO.FS.readBinFile path)))
    | _ => pure none
  catch _ => pure none

/-- The file system with what a path leads to, and with the directories on the way. -/
def addPath (o : ScanOptions) (levels : Nat) (s : FileSystem) (p : Path) : IO FileSystem := do
  let (start, pieces) := FileSystem.start s.working p
  let mut place := start
  let mut text := if p.isAbsolute then "/" else "."
  let mut root := s.root
  for piece in pieces do
    let name := String.ofList piece
    if name != "" && name != "." then
      text := text ++ "/" ++ name
      place := if name == ".." then place.dropLast else place ++ [name]
      match ← observe o 0 text with
      | some t => if (root.descend? place).isNone then root := FileTree.put t place root
      | none => break
  match ← observe o levels text with
  | some t => root := FileTree.put t place root
  | none => pure ()
  pure { s with root := root }

def addPaths (o : ScanOptions) (levels : Nat) (s : FileSystem) (paths : List Path) :
    IO FileSystem :=
  paths.foldlM (addPath o levels) s

def pathsOf : Command → List Path
  | .analyze directory _ output _ _ => output.toList ++ [directory]
  | .deps directory _ output _ => output.toList ++ [directory]
  | .ask _ directory _ => directory.toList
  | .review directory _ => [directory]
  | .fix file _ _ => [file]
  | .lint directory _ output _ _ => output.toList ++ [directory]
  | .interactive directory _ => [directory]
  | .status => []
  | .init => [Program.settingsFile]
  | .validate file => [file]

def scanOf (o : Options) : Command → ScanOptions
  | .analyze _ _ _ _ scan => (o.withArguments scan).scan
  | .deps _ _ _ scan => (o.withArguments scan).scan
  | .lint _ _ _ _ scan => (o.withArguments scan).scan
  | _ => o.scan

def leave (outcome : Outcome) : IO UInt32 := do
  IO.print outcome.output
  IO.eprint outcome.errors
  if let some (path, text) := outcome.written then
    IO.FS.writeFile path.text text
  pure outcome.exitCode.toUInt32

partial def converse (s : FileSystem) (o : Options) (directory : Path) (server : ModelServer) :
    IO UInt32 := do
  IO.print Program.promptText
  (← IO.getStdout).flush
  let line ← (← IO.getStdin).getLine
  if line.isEmpty then
    IO.println ""
    return 0
  let line := (Text.linesOf line).headD ""
  let file := match Session.commandOf (Text.trim line.toList) with
    | .fix arguments =>
        ((Session.fixArguments? arguments).map fun (name, _) => directory.join name).toList
    | _ => []
  let files ← addPaths o.scan o.scan.depth s (directory :: file)
  let turn := Session.handle ⟨files, o, directory⟩ server line
  let shown := Program.showReply {} turn.reply
  IO.print shown.output
  IO.eprint shown.errors
  if Program.endsSession turn.reply then return 0
  converse s o directory turn.server

def carryOut (words : List String) (env : Environment) (i : Invocation) : IO UInt32 := do
  let here : Path := ⟨""⟩
  let settings ← addPaths {} 0 ⟨.empty, []⟩ (i.config.toList ++ optionPlaces env here)
  let command := i.command.getD Program.defaultCommand
  let time ← timestamp
  let surroundings (files : FileSystem) : Surroundings :=
    ⟨files, env, here, "", time, ModelServer.unreachable⟩
  match Options.load settings env i.config here, command with
  | .ok o, .interactive directory model =>
      match Program.withModel o model with
      | .ok o =>
          IO.print (Program.greeting directory)
          converse settings o directory (ModelServer.unreachable o.model)
      | .error _ => leave (Program.run (surroundings settings) words)
  | .ok o, command =>
      let scan := scanOf o command
      let files ← addPaths scan scan.depth settings (pathsOf command)
      leave (Program.run (surroundings files) words)
  | .error _, _ => leave (Program.run (surroundings settings) words)

end Terralens.Shell

def main (words : List String) : IO UInt32 := do
  let env ← Terralens.Shell.environment
  match Terralens.CommandLine.parse env words with
  | .error e => Terralens.Shell.leave (Terralens.Program.refuse e)
  | .ok invocation => Terralens.Shell.carryOut words env invocation
