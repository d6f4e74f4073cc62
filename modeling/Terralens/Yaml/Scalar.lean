import Terralens.Yaml.Place

/-!
# Scalars of a YAML text

The three ways of writing a scalar: plain, between quotes, and as a block of lines. Each
function reads a scalar at a place and gives its text and the place behind it; `none` is
a syntax error.
-/

namespace Terralens.Yaml

/-- A scalar that was read. `broken` tells that a plain scalar ends after a line break. -/
structure ScalarText where
  text : List Char
  broken : Bool
  place : Place

/-! ### Plain scalars -/

/-- Whether a character is one of those that part the items of a flow collection. -/
def isFlowMark (c : Char) : Bool :=
  c == ',' || c == '[' || c == ']' || c == '\x7b' || c == '\x7d'

/-- The word a plain scalar goes on with; `none` for a colon that may not stand there. -/
def plainWord (flow : Bool) : Nat → Place → Option (List Char × Place)
  | 0, p => some ([], p)
  | fuel + 1, p =>
      match p.rest with
      | [] => some ([], p)
      | c :: rest =>
          if isBlank c || isBreak c then some ([], p)
          else if flow && c == ':' && rest.head?.any (fun d => isFlowMark d || d == '?') then none
          else if (c == ':' && endsWord rest) || (flow && isFlowMark c) then some ([], p)
          else (plainWord flow fuel p.next).map fun (word, p) => (c :: word, p)

/-- Whether a tab stands where the indentation of a line is not complete. -/
def tabIndents (indent : Int) : Nat → Bool → Place → Bool
  | 0, _, _ => false
  | fuel + 1, broken, p =>
      match p.rest with
      | [] => false
      | c :: _ =>
          if isBlank c then
            (broken && c == '\t' && (p.column : Int) < indent) ||
              tabIndents indent fuel broken p.next
          else if isBreak c then tabIndents indent fuel true p.nextLine
          else false

/-- A plain scalar after what has been read of it, with a gap before its next word. -/
def plainFrom (flow : Bool) (indent : Int) : Nat → List Char → Gap → Place → Option ScalarText
  | 0, text, gap, p => some ⟨text, gap.broken, p⟩
  | fuel + 1, text, gap, p =>
      if p.atDocumentMark || p.rest.head? == some '#' then some ⟨text, gap.broken, p⟩
      else
        match plainWord flow (p.rest.length + 1) p with
        | none => none
        | some ([], p) => some ⟨text, gap.broken, p⟩
        | some (word, p) =>
            let text := text ++ gap.text ++ word
            if p.rest.isEmpty || !endsWord p.rest then some ⟨text, false, p⟩
            else if tabIndents indent (p.rest.length + 1) false p then none
            else
              let (gap, p) := readGap (p.rest.length + 1) .none p
              if !flow && (p.column : Int) < indent then some ⟨text, gap.broken, p⟩
              else plainFrom flow indent fuel text gap p

def plainScalar (flow : Bool) (indent : Int) (p : Place) : Option ScalarText :=
  plainFrom flow (indent + 1) (p.rest.length + 1) [] .none p

/-! ### Quoted scalars -/

def hexDigit? (c : Char) : Option Nat :=
  if c.isDigit then some (c.toNat - '0'.toNat)
  else if 'a' ≤ c && c ≤ 'f' then some (c.toNat - 'a'.toNat + 10)
  else if 'A' ≤ c && c ≤ 'F' then some (c.toNat - 'A'.toNat + 10)
  else none

def hexChar? (count : Nat) (s : List Char) : Option Char :=
  let ds := (s.take count).filterMap hexDigit?
  if ds.length == count then
    let n := ds.foldl (fun n d => 16 * n + d) 0
    if h : n.isValidChar then some ⟨n.toUInt32, by
      simp only [Nat.isValidChar] at h
      have : n < 4294967296 := by omega
      simpa [UInt32.isValidChar, Nat.isValidChar, Nat.mod_eq_of_lt this] using h⟩
    else none
  else none

/-- The character an escape stands for, and the number of characters of the escape. -/
def escaped? : List Char → Option (Char × Nat)
  | '0' :: _ => some ('\x00', 1)
  | 'a' :: _ => some ('\x07', 1)
  | 'b' :: _ => some ('\x08', 1)
  | 't' :: _ => some ('\t', 1)
  | '\t' :: _ => some ('\t', 1)
  | 'n' :: _ => some ('\n', 1)
  | 'v' :: _ => some ('\x0b', 1)
  | 'f' :: _ => some ('\x0c', 1)
  | 'r' :: _ => some ('\r', 1)
  | 'e' :: _ => some ('\x1b', 1)
  | ' ' :: _ => some (' ', 1)
  | '"' :: _ => some ('"', 1)
  | '/' :: _ => some ('/', 1)
  | '\\' :: _ => some ('\\', 1)
  | 'N' :: _ => some ('\u0085', 1)
  | '_' :: _ => some ('\u00a0', 1)
  | 'L' :: _ => some ('\u2028', 1)
  | 'P' :: _ => some ('\u2029', 1)
  | 'x' :: rest => (hexChar? 2 rest).map (·, 3)
  | 'u' :: rest => (hexChar? 4 rest).map (·, 5)
  | 'U' :: rest => (hexChar? 8 rest).map (·, 9)
  | _ => none

/-- The word a quoted scalar goes on with, and whether an escaped line break ends it. -/
def quotedWord (double : Bool) : Nat → Place → Option (List Char × Bool × Place)
  | 0, _ => none
  | fuel + 1, p =>
      let go (c : Char) (count : Nat) :=
        (quotedWord double fuel (p.skip count)).map fun (word, joined, p) => (c :: word, joined, p)
      match p.rest with
      | [] => some ([], false, p)
      | c :: rest =>
          if isBlank c || isBreak c then some ([], false, p)
          else if !double && c == '\'' then
            if rest.head? == some '\'' then go '\'' 2 else some ([], false, p)
          else if double && c == '"' then some ([], false, p)
          else if double && c == '\\' then
            if startsBreak rest then some ([], true, p.next.nextLine)
            else
              match escaped? rest with
              | some (d, count) => go d (count + 1)
              | none => none
          else go c 1

def quotedFrom (double : Bool) : Nat → List Char → Place → Option ScalarText
  | 0, _, _ => none
  | fuel + 1, text, p =>
      if p.atDocumentMark then none
      else
        match quotedWord double (p.rest.length + 1) p with
        | none => none
        | some (word, joined, p) =>
            let text := text ++ word
            match p.rest with
            | [] => none
            | c :: _ =>
                if !joined && c == (if double then '"' else '\'') then some ⟨text, false, p.next⟩
                else
                  let start : Gap := if joined then ⟨[], some [], []⟩ else .none
                  let (gap, p) := readGap (p.rest.length + 1) start p
                  quotedFrom double fuel (text ++ gap.text) p

def quotedScalar (double : Bool) (p : Place) : Option ScalarText :=
  quotedFrom double (p.rest.length + 1) [] p.next

/-! ### Block scalars -/

inductive Chomping where
  | strip
  | clip
  | keep
deriving DecidableEq

def chomping? : List Char → Option Chomping
  | '+' :: _ => some .keep
  | '-' :: _ => some .strip
  | _ => none

/-- The indentation a digit stands for; `none` for the digit zero. -/
def increment? : List Char → Option (Option Nat)
  | c :: _ =>
      if c == '0' then none
      else if c.isDigit then some (some (c.toNat - '0'.toNat))
      else some none
  | [] => some none

/-- The chomping and the indentation in the head of a block, in either order. -/
def blockHead (p : Place) : Option (Chomping × Option Nat × Place) :=
  match chomping? p.rest with
  | some chomping =>
      (increment? p.next.rest).map fun n => (chomping, n, if n.isSome then p.next.next else p.next)
  | none =>
      match increment? p.rest with
      | none => none
      | some none => some (.clip, none, p)
      | some (some n) =>
          match chomping? p.next.rest with
          | some chomping => some (chomping, some n, p.next.next)
          | none => some (.clip, some n, p.next)

def skipBlanks : Nat → Place → Place
  | 0, p => p
  | fuel + 1, p => if startsBlank p.rest then skipBlanks fuel p.next else p

def skipToBreak : Nat → Place → Place
  | 0, p => p
  | fuel + 1, p => if p.rest.isEmpty || startsBreak p.rest then p else skipToBreak fuel p.next

/-- The place behind the indentation of a line, at most `indent` blanks of it; `none` for
  all of it. -/
def skipIndent (indent : Option Nat) : Nat → Place → Place
  | 0, p => p
  | fuel + 1, p =>
      if p.rest.head? == some ' ' && indent.all (p.column < ·) then skipIndent indent fuel p.next
      else p

/-- Reads the empty lines at a place: their breaks, and the largest indentation met.
  A tab in the indentation is an error. -/
def emptyLines (indent : Option Nat) : Nat → List Char → Nat → Place →
    Option (List Char × Nat × Place)
  | 0, breaks, largest, p => some (breaks, largest, p)
  | fuel + 1, breaks, largest, p =>
      let p := skipIndent indent (p.rest.length + 1) p
      let largest := max largest p.column
      if p.rest.head? == some '\t' && indent.all (p.column < ·) then none
      else if startsBreak p.rest then
        emptyLines indent fuel (breaks ++ breakText p.rest) largest p.nextLine
      else some (breaks, largest, p)

/-- The lines of a block after what has been read of it. `ending` is the break that ends
  the last line, `breaks` those of the empty lines after it. -/
def blockLines (folded : Bool) (indent : Nat) : Nat → List Char → List Char → List Char → Bool →
    Place → Option (List Char × List Char × List Char × Place)
  | 0, text, ending, breaks, _, p => some (text, ending, breaks, p)
  | fuel + 1, text, ending, breaks, blankBefore, p =>
      if p.column != indent || p.rest.isEmpty then some (text, ending, breaks, p)
      else
        let blank := startsBlank p.rest
        let joint :=
          if folded && ending == ['\n'] && !blankBefore && !blank then
            (if breaks.isEmpty then [' '] else breaks)
          else ending ++ breaks
        let stop := skipToBreak (p.rest.length + 1) p
        let line := p.rest.take (p.rest.length - stop.rest.length)
        let (ending, start) :=
          if stop.rest.isEmpty then ([], stop) else (breakText stop.rest, stop.nextLine)
        match emptyLines (some indent) (start.rest.length + 1) [] 0 start with
        | none => none
        | some (breaks, _, next) =>
            blockLines folded indent fuel (text ++ joint ++ line) ending breaks blank next

def blockScalar (folded : Bool) (indent : Int) (p : Place) : Option ScalarText :=
  match blockHead p.next with
  | none => none
  | some (chomping, increment, p) =>
      let after := skipBlanks (p.rest.length + 1) p
      let after := if after.rest.head? == some '#' then skipToBreak (after.rest.length + 1) after
        else after
      if !(after.rest.isEmpty || startsBreak after.rest) then none
      else
        let start := if after.rest.isEmpty then after else after.nextLine
        let given := increment.map fun n => (max indent 0).toNat + n
        match emptyLines given (start.rest.length + 1) [] 0 start with
        | none => none
        | some (breaks, largest, p) =>
            let column := given.getD (max (max largest (indent + 1).toNat) 1)
            match blockLines folded column (p.rest.length + 1) [] [] breaks false p with
            | none => none
            | some (text, ending, breaks, p) =>
                let text := match chomping with
                  | .strip => text
                  | .clip => text ++ ending
                  | .keep => text ++ ending ++ breaks
                some ⟨text, false, p⟩

end Terralens.Yaml
