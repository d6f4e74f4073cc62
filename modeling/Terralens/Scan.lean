import Terralens.Files.System
import Terralens.Glob
import Terralens.Options

/-!
# Scanning directories

The configuration files below a directory. Hidden names, state files and excluded names are
passed over, with all that lies below them; links are not followed. The files come in the
order of their paths.
-/

namespace Terralens

namespace ScanOptions

/-- How many levels of a directory are scanned: one, unless the scan is recursive, and then at least
  one. -/
def depth (o : ScanOptions) : Nat := if o.recursive then max 1 o.maxDepth else 1

/-- Whether a name is passed over (`should_skip`): a hidden one, the one of a state file, or one
  that a pattern stands for. The name of the directory that is scanned does not count. -/
def skips (o : ScanOptions) (name : String) : Bool :=
  name.toList.head? == some '.' || name == "terraform.tfstate" ||
    o.excludePatterns.any (Glob.standsFor · name)

end ScanOptions

/-- Whether a name ends as those of configuration files do (`is_terraform_file`). -/
def isConfigurationName (name : String) : Bool :=
  [".tf", ".tfvars", ".hcl"].any fun ending => ending.toList.isSuffixOf name.toList

structure FoundFile where
  path : Path
  content : Except Fault ByteArray
deriving Inhabited

mutual

/-- The configuration files below a directory, down to so many levels (`collect_paths`). A directory
  whose path is too long cannot be listed (`walk_error`). -/
def walk (o : ScanOptions) (path : Path) : Nat → FileTree → Except Error (List FoundFile)
  | levels + 1, .directory entries =>
      if path.text.utf8ByteSize > FileSystem.longestPath then .error (.fileRead path .tooLong)
      else walkEntries o path levels entries
  | _, _ => .ok []

def walkEntries (o : ScanOptions) (path : Path) (levels : Nat) :
    List (String × FileTree) → Except Error (List FoundFile)
  | [] => .ok []
  | (name, t) :: rest => do
      let below ←
        if o.skips name then .ok []
        else
          match t.content? with
          | some content =>
              .ok (if isConfigurationName name then [⟨path.join name, content⟩] else [])
          -- A directory is entered; for a link, which is neither, `walk` gives nothing.
          | none => walk o (path.join name) levels t
      let others ← walkEntries o path levels rest
      pure (below ++ others)

end

/-- The source file that was found, once its text is read. A file whose name tells no kind is left
  out, but a scan finds none of these. -/
def FoundFile.source? (f : FoundFile) : Except Error (Option SourceFile) :=
  match FileKind.ofPath? f.path with
  | none => .ok none
  | some kind =>
      if f.path.text.utf8ByteSize > FileSystem.longestPath then
        .error (.fileRead f.path .tooLong)
      else
        match f.content.bind textOf with
        | .ok text => .ok (some ⟨f.path, text, kind⟩)
        | .error fault => .error (.fileRead f.path fault)

/-- The source files of those found, in order; the first that cannot be read ends the reading. -/
def readFound : List FoundFile → Except Error (List SourceFile)
  | [] => .ok []
  | f :: rest => do
      let file ← f.source?
      let files ← readFound rest
      pure (file.toList ++ files)

/-- The source files below a directory that is there, in the order of their paths. -/
def loadTree (o : ScanOptions) (path : Path) (t : FileTree) : Except Error (List SourceFile) := do
  let found ← walk o path o.depth t
  readFound (found.mergeSort fun a b => a.path.atMost b.path)

/-- The source files below a path (`load_directory`). A path that leads to no directory is an error
  of its own. -/
def loadDirectory (s : FileSystem) (o : ScanOptions) (path : Path) :
    Except Error (List SourceFile) :=
  match s.get? path with
  | some (.directory entries) => loadTree o path (.directory entries)
  | _ => .error (.directoryNotFound path)

end Terralens
