import Terralens.Text.Basic

/-!
# Answers

What a model answered: its text, the code in it, and its lines sorted by what they are
about. Code stands in fenced blocks that are marked as Terraform code.
-/

namespace Terralens

def fence : List Char := ['\x60', '\x60', '\x60']

def opening? (s : List Char) : Option (List Char) := do
  let s ← Text.afterStart? fence s
  let s ← Text.afterStart? "hcl".toList s <|> Text.afterStart? "terraform".toList s <|>
    Text.afterStart? "tf".toList s
  let s := s.dropWhile fun c => c == ' ' || c == '\t'
  Text.afterStart? ['\r', '\n'] s <|> Text.afterStart? ['\n'] s

def dropFirst (c : Char) : List Char → List Char
  | [] => []
  | c' :: rest => if c = c' then rest else c' :: rest

def closing? (s : List Char) : Option (List Char) :=
  Text.afterStart? fence (dropFirst '\n' (dropFirst '\r' s))

/-- The text up to the first closing fence and what follows the fence. Without a closing fence there
  is no body. -/
def body? : List Char → Option (List Char × List Char)
  | [] => none
  | c :: rest =>
      match closing? (c :: rest) with
      | some after => some ([], after)
      | none => (body? rest).map fun (body, after) => (c :: body, after)

def block? (s : List Char) : Option (List Char × List Char) := (opening? s).bind body?

/-- The code blocks of a text of which the first `skip` characters belong to the block
  before. -/
def codeBlocksFrom : Nat → List Char → List String
  | _, [] => []
  | skip + 1, _ :: rest => codeBlocksFrom skip rest
  | 0, c :: rest =>
      match block? (c :: rest) with
      -- The block is passed over as a whole, so a fence inside its body opens nothing.
      | some (body, after) => String.ofList body :: codeBlocksFrom (rest.length - after.length) rest
      | none => codeBlocksFrom 0 rest

/-- The bodies of the fenced blocks of Terraform code in a text, in their order
  (`extract_code_blocks`). -/
def extractCodeBlocks (text : String) : List String := codeBlocksFrom 0 text.toList

/-- The lines of an answer that propose changes, point at problems, or are about making
  things better. A line may be in more than one group. -/
structure ReviewFindings where
  suggestions : List String
  issues : List String
  improvements : List String
deriving DecidableEq, Repr

def ReviewFindings.isEmpty (f : ReviewFindings) : Bool :=
  f.suggestions.isEmpty && f.issues.isEmpty && f.improvements.isEmpty

def mentions (words : List String) (line : List Char) : Bool :=
  words.any fun word => Text.occurs word.toList (Text.lowered line)

/-- The lines of a text that are not blank, without the white space around them. -/
def filledLines (text : String) : List (List Char) :=
  ((Text.lines text.toList).map Text.trim).filter fun line => !line.isEmpty

/-- The lines of a text by what they are about (`from_text`). -/
def ReviewFindings.ofText (text : String) : ReviewFindings :=
  let pick := fun words => ((filledLines text).filter (mentions words)).map String.ofList
  ⟨pick ["suggest", "recommend", "consider", "should"],
    pick ["issue", "problem", "error", "warning", "security risk"],
    pick ["improve", "optimize", "enhance", "better"]⟩

/-- An answer and the code in it (`AgentResponse`). -/
structure Answer where
  text : String
  codeBlocks : List String
deriving DecidableEq, Repr, Inhabited

def Answer.ofText (text : String) : Answer := ⟨text, extractCodeBlocks text⟩

def Answer.findings (a : Answer) : ReviewFindings := .ofText a.text

end Terralens
