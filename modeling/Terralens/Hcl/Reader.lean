/-!
# Readers

A reader takes characters from the front of a text. It either reads a value, or is
refused, in which case another reader may be tried from the same place, or fails for
good. A refusal and a failure carry what was expected and the text at which the reader
stood.

A reader also keeps the text it has read (`source`), as it is to be shown again inside a
template; for most readers that is the text itself.
-/

namespace Terralens.Hcl

structure Failure where
  label : Option String
  expected : List String
  rest : List Char
deriving Repr

inductive Outcome (α : Type) where
  | read (value : α) (source rest : List Char)
  | refused (why : Failure)
  | fatal (why : Failure)

def Reader (α : Type) : Type := List Char → Outcome α

namespace Reader

variable {α β : Type}

protected def pure (a : α) : Reader α := fun s => .read a [] s

/-- One reader after another, on what the first left. -/
protected def bind (p : Reader α) (f : α → Reader β) : Reader β := fun s =>
  match p s with
  | .read a source rest =>
      match f a rest with
      | .read b more rest => .read b (source ++ more) rest
      | .refused why => .refused why
      | .fatal why => .fatal why
  | .refused why => .refused why
  | .fatal why => .fatal why

instance : Monad Reader where
  pure := Reader.pure
  bind := Reader.bind

def refuse : Reader α := fun s => .refused ⟨none, [], s⟩

/-- The first reader, or the second in its place when the first is refused. -/
protected def orElse (p q : Reader α) : Reader α := fun s =>
  match p s with
  | .refused _ => q s
  | outcome => outcome

instance : OrElse (Reader α) where
  orElse p q := p.orElse (q ())

def optional (p : Reader α) : Reader (Option α) := fun s =>
  match p s with
  | .read a source rest => .read (some a) source rest
  | .refused _ => .read none [] s
  | .fatal why => .fatal why

/-- A refusal of the reader is final. -/
def cut (p : Reader α) : Reader α := fun s =>
  match p s with
  | .refused why => .fatal why
  | outcome => outcome

def Failure.expecting (why : Failure) (label : Option String) (expected : List String) :
    Failure :=
  { why with label := why.label <|> label, expected := why.expected ++ expected }

def expecting (label : Option String) (expected : List String) (p : Reader α) : Reader α :=
  fun s =>
    match p s with
    | .refused why => .refused (Failure.expecting why label expected)
    | .fatal why => .fatal (Failure.expecting why label expected)
    | outcome => outcome

/-- The reader's value, its text shown as another one. -/
def shown (display : α → List Char) (p : Reader α) : Reader α := fun s =>
  match p s with
  | .read a _ rest => .read a (display a) rest
  | outcome => outcome

def hidden (p : Reader α) : Reader α := p.shown fun _ => []

def emit (text : List Char) : Reader Unit := fun s => .read () text s

def withSource (p : Reader α) : Reader (α × List Char) := fun s =>
  match p s with
  | .read a source rest => .read (a, source) source rest
  | .refused why => .refused why
  | .fatal why => .fatal why

def peek : Reader Char := fun s =>
  match s with
  | [] => .refused ⟨none, [], s⟩
  | c :: _ => .read c [] s

def ahead : Reader (List Char) := fun s => .read s [] s

def any : Reader Char := fun s =>
  match s with
  | [] => .refused ⟨none, [], s⟩
  | c :: rest => .read c [c] rest

def char (c : Char) : Reader Unit := fun s =>
  match s with
  | [] => .refused ⟨none, [], s⟩
  | d :: rest => if d = c then .read () [c] rest else .refused ⟨none, [], s⟩

/-- What follows a text that begins with `word`. -/
def stripWord : List Char → List Char → Option (List Char)
  | [], s => some s
  | _ :: _, [] => none
  | w :: ws, c :: cs => if w = c then stripWord ws cs else none

def word (w : List Char) : Reader Unit := fun s =>
  match stripWord w s with
  | some rest => .read () w rest
  | none => .refused ⟨none, [], s⟩

def span (p : Char → Bool) : Reader (List Char) := fun s =>
  .read (s.takeWhile p) (s.takeWhile p) (s.dropWhile p)

def span1 (p : Char → Bool) : Reader (List Char) := fun s =>
  match s with
  | [] => .refused ⟨none, [], s⟩
  | c :: _ => if p c then span p s else .refused ⟨none, [], s⟩

/-- Reads as often as it can, at most `fuel` times. -/
def manyUpTo (p : Reader α) : Nat → Reader (List α)
  | 0 => pure []
  | fuel + 1 =>
      Reader.orElse (do let a ← p; let more ← manyUpTo p fuel; pure (a :: more)) (pure [])

def many (p : Reader α) : Reader (List α) := fun s => manyUpTo p (s.length + 1) s

def many1 (p : Reader α) : Reader (List α) := do
  let a ← p
  let more ← many p
  pure (a :: more)

/-- Reads values with separators between them; a separator that no value follows is left. -/
def separated (p : Reader α) (sep : Reader Unit) : Reader (List α) :=
  Reader.orElse (do let a ← p; let more ← many (do sep; p); pure (a :: more)) (pure [])

end Reader

def charName (c : Char) : String :=
  if c = '\n' then "newline" else "`" ++ String.singleton c ++ "`"

def requireChar (c : Char) : Reader Unit := ((Reader.char c).cut).expecting none [charName c]

def requireWord (w : List Char) : Reader Unit :=
  ((Reader.word w).cut).expecting none ["`" ++ String.ofList w ++ "`"]

end Terralens.Hcl
