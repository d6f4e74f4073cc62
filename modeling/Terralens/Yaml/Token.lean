import Terralens.Yaml.Scalar

/-!
# Tokens of a YAML text

A text is read into tokens in one pass. Indentation opens and closes block collections. A
scalar may turn out to be a key only when its colon is met; the place of such a candidate
is remembered, and the token that marks it as a key is put before it then. A candidate
is good for one line and 1024 characters.
-/

namespace Terralens.Yaml

/-- The tokens of a text. A tag counts only by the handle that it names. -/
inductive Token where
  | version
  | handle (name : String)
  | documentStart
  | documentEnd
  | blockSequence
  | blockMapping
  | blockEnd
  | flowSequence
  | flowSequenceEnd
  | flowMapping
  | flowMappingEnd
  | blockEntry
  | flowEntry
  | key
  | value
  | reference (name : String)
  | anchor (name : String)
  | tag (handle : Option String)
  | scalar (plain : Bool) (text : String)
deriving DecidableEq, Repr

/-- A token that may turn out to be a key: its number among the tokens, its place, and
  whether it has to be one. -/
structure Candidate where
  number : Nat
  place : Place
  required : Bool

/-- How far a text has been read. Tokens are in reverse order. There is one entry in
  `candidates` for the text itself and one for each flow collection that is open. -/
structure Scan where
  place : Place
  tokens : List Token
  indent : Int
  indents : List Int
  candidates : List (Option Candidate)
  keyAllowed : Bool

namespace Scan

def start (text : List Char) : Scan := ⟨⟨text, 0, 0, 0⟩, [], -1, [], [none], true⟩

def inFlow (s : Scan) : Bool := s.candidates.length > 1

def push (s : Scan) (t : Token) : Scan := { s with tokens := t :: s.tokens }

/-- A token put before token `number`. -/
def insertBefore (s : Scan) (number : Nat) (t : Token) : Scan :=
  let later := s.tokens.length - number
  { s with tokens := s.tokens.take later ++ t :: s.tokens.drop later }

/-- Forgets the innermost candidate; `none` when it had to be a key. -/
def forget (s : Scan) : Option Scan :=
  match s.candidates with
  | some c :: rest => if c.required then none else some { s with candidates := none :: rest }
  | _ => some s

def remember (s : Scan) : Option Scan :=
  if s.keyAllowed then
    s.forget.map fun s =>
      let c : Candidate :=
        ⟨s.tokens.length, s.place, !s.inFlow && s.indent == (s.place.column : Int)⟩
      { s with candidates := some c :: s.candidates.drop 1 }
  else some s

def isStale (p : Place) (c : Candidate) : Bool :=
  c.place.line < p.line || c.place.index + 1024 < p.index

/-- Drops the candidates that are too far away; `none` when one of them had to be a key. -/
def dropStale (s : Scan) : Option Scan :=
  if s.candidates.any (fun c => c.any fun c => isStale s.place c && c.required) then none
  else
    some { s with candidates := s.candidates.map fun c => c.filter fun c => !isStale s.place c }

/-- Closes the block collections that are indented more than `column`. -/
def unroll (column : Int) : Nat → Scan → Scan
  | 0, s => s
  | fuel + 1, s =>
      if s.inFlow then s
      else if s.indent > column then
        unroll column fuel
          { s.push .blockEnd with indent := s.indents.headD (-1), indents := s.indents.drop 1 }
      else s

/-- Opens a block collection at a column that is indented more than those around it. Its
  token goes before token `number`. -/
def roll (s : Scan) (column number : Nat) (t : Token) : Scan :=
  if !s.inFlow && s.indent < (column : Int) then
    { s.insertBefore number t with indent := column, indents := s.indent :: s.indents }
  else s

def take (s : Scan) (count : Nat) (t : Token) : Scan :=
  { s.push t with place := s.place.skip count }

def toToken : Nat → Scan → Scan
  | 0, s => s
  | fuel + 1, s =>
      match s.place.rest with
      | [] => s
      | c :: _ =>
          if c == ' ' || (c == '\t' && (s.inFlow || !s.keyAllowed)) then
            toToken fuel { s with place := s.place.next }
          else if c == '#' then
            let p := skipToBreak (s.place.rest.length + 1) s.place
            toToken fuel { s with place := p }
          else if isBreak c then
            toToken fuel
              { s with place := s.place.nextLine, keyAllowed := s.keyAllowed || !s.inFlow }
          else s

def documentMark (s : Scan) (t : Token) : Option Scan :=
  ((unroll (-1) (s.indents.length + 1) s).forget).map fun s =>
    { s.take 3 t with keyAllowed := false }

/-- Whether a character belongs to the name of an anchor, of a handle or of a directive. -/
def isNameChar (c : Char) : Bool := c.isAlphanum || c == '_' || c == '-'

def isTagChar (c : Char) : Bool :=
  isNameChar c || ";/?:@&=+$.!~*'()%".toList.contains c

def isFullTagChar (c : Char) : Bool := isTagChar c || c == ',' || c == '[' || c == ']'

def escapesWell : List Char → Bool
  | '%' :: a :: b :: rest => (hexDigit? a).isSome && (hexDigit? b).isSome && escapesWell rest
  | '%' :: _ => false
  | _ :: rest => escapesWell rest
  | [] => true

def endsLine (s : List Char) : Bool :=
  match s.dropWhile isBlank with
  | [] => true
  | c :: _ => c == '#'

/-- A number of a version, of nine digits at most, and what follows it. -/
def versionNumber? (s : List Char) : Option (Nat × List Char) :=
  let digits := s.takeWhile Char.isDigit
  if digits.isEmpty || digits.length > 9 then none
  else some (digits.foldl (fun n c => 10 * n + (c.toNat - '0'.toNat)) 0, s.drop digits.length)

def version? (s : List Char) : Option Token :=
  match versionNumber? s with
  | some (1, '.' :: s) =>
      match versionNumber? s with
      | some (minor, s) => if (minor == 1 || minor == 2) && endsLine s then some .version else none
      | none => none
  | _ => none

/-- The handle that a directive names; a text for which it stands follows it. -/
def handle? (s : List Char) : Option Token :=
  match s with
  | '!' :: s =>
      let name := s.takeWhile isNameChar
      let known : Option (List Char) := match name, s.drop name.length with
        | _, '!' :: rest => some rest
        | [], rest => some rest
        | _, _ => none
      known.bind fun rest =>
        let full := rest.dropWhile isBlank
        let uri := full.takeWhile isFullTagChar
        let after := full.drop uri.length
        if startsBlank rest && !uri.isEmpty && escapesWell uri && endsWord after && endsLine after
        then some (.handle (String.ofList (s.take (s.length - rest.length))))
        else none
  | _ => none

def directive? (line : List Char) : Option Token :=
  let name := line.takeWhile isNameChar
  let rest := line.drop name.length
  if !endsWord rest then none
  else if name == "YAML".toList then version? (rest.dropWhile isBlank)
  else if name == "TAG".toList then handle? (rest.dropWhile isBlank)
  else none

def directive (s : Scan) : Option Scan :=
  ((unroll (-1) (s.indents.length + 1) s).forget).bind fun s =>
    let stop := skipToBreak (s.place.rest.length + 1) s.place
    let line := s.place.rest.take (s.place.rest.length - stop.rest.length)
    (directive? (line.drop 1)).map fun t =>
      { s.push t with place := stop, keyAllowed := false }

def openFlow (s : Scan) (t : Token) : Option Scan :=
  s.remember.map fun s =>
    { s.take 1 t with candidates := none :: s.candidates, keyAllowed := true }

def closeFlow (s : Scan) (t : Token) : Option Scan :=
  s.forget.map fun s =>
    { s.take 1 t with
      candidates := if s.inFlow then s.candidates.drop 1 else s.candidates, keyAllowed := false }

def flowEntry (s : Scan) : Option Scan :=
  s.forget.map fun s => { s.take 1 .flowEntry with keyAllowed := true }

def blockEntry (s : Scan) : Option Scan :=
  if s.inFlow || s.keyAllowed then
    ((s.roll s.place.column s.tokens.length .blockSequence).forget).map fun s =>
      { s.take 1 .blockEntry with keyAllowed := true }
  else none

def keyMark (s : Scan) : Option Scan :=
  if s.inFlow || s.keyAllowed then
    ((s.roll s.place.column s.tokens.length .blockMapping).forget).map fun s =>
      { s.take 1 .key with keyAllowed := !s.inFlow }
  else none

/-- The colon before a value. It makes a key of the candidate. -/
def valueMark (s : Scan) : Option Scan :=
  match s.candidates with
  | some c :: rest =>
      let s := (s.insertBefore c.number .key).roll c.place.column c.number .blockMapping
      some { s.take 1 .value with candidates := none :: rest, keyAllowed := false }
  | _ =>
      if s.inFlow || s.keyAllowed then
        let s := s.roll s.place.column s.tokens.length .blockMapping
        some { s.take 1 .value with keyAllowed := !s.inFlow }
      else none

def endsName (rest : List Char) : Bool :=
  endsWord rest || rest.head?.any fun c => "?:,]\x7d%@`".toList.contains c

def named (s : Scan) (t : String → Token) : Option Scan :=
  s.remember.bind fun s =>
    let name := (s.place.rest.drop 1).takeWhile isNameChar
    let after := s.place.skip (name.length + 1)
    if name.isEmpty || !endsName after.rest then none
    else some { s.push (t (String.ofList name)) with place := after, keyAllowed := false }

/-- The tag behind an exclamation mark: the handle it names, unless that is one of the two
  that are always known, and the number of its characters. -/
def tagAt (s : List Char) : Option (Option String × Nat) :=
  match s with
  | '<' :: rest =>
      let uri := rest.takeWhile isFullTagChar
      if !uri.isEmpty && escapesWell uri && (rest.drop uri.length).head? == some '>' then
        some (none, uri.length + 2)
      else none
  | _ =>
      let name := s.takeWhile isNameChar
      let (name, rest) := match s.drop name.length with
        | '!' :: rest => (name ++ ['!'], rest)
        | rest => (name, rest)
      let named := name.getLast? == some '!'
      let uri := rest.takeWhile isTagChar
      if !escapesWell uri || (named && uri.isEmpty) then none
      else
        some (if named && name.length > 1 then some (String.ofList name) else none,
          name.length + uri.length)

def tag (s : Scan) : Option Scan :=
  s.remember.bind fun s =>
    (tagAt (s.place.rest.drop 1)).bind fun (handle, count) =>
      let after := s.place.skip (count + 1)
      if endsWord after.rest || (s.inFlow && after.rest.head? == some ',') then
        some { s.push (.tag handle) with place := after, keyAllowed := false }
      else none

def scalar (s : Scan) (plain keyAllowed : Bool) (read : Option ScalarText) : Option Scan :=
  read.map fun r =>
    { s.push (.scalar plain (String.ofList r.text)) with
      place := r.place, keyAllowed := keyAllowed }

def block (s : Scan) (folded : Bool) : Option Scan :=
  s.forget.bind fun s => s.scalar false true (blockScalar folded s.indent s.place)

def quoted (s : Scan) (double : Bool) : Option Scan :=
  s.remember.bind fun s => s.scalar false false (quotedScalar double s.place)

def plain (s : Scan) : Option Scan :=
  s.remember.bind fun s =>
    let read := plainScalar s.inFlow s.indent s.place
    s.scalar true (read.any (·.broken)) read

/-- Whether a plain scalar may start with a character, given those after it. -/
def startsPlain (flow : Bool) (c : Char) (rest : List Char) : Bool :=
  !(isBlank c || "-?:,[]\x7b\x7d#&*!|>'\"%@`".toList.contains c) ||
    (c == '-' && !startsBlank rest) || (!flow && (c == '?' || c == ':') && !endsWord rest)

def token (s : Scan) (c : Char) (rest : List Char) : Option Scan :=
  if s.place.column == 0 && c == '%' then s.directive
  else if s.place.atDocumentMark then
    s.documentMark (if c == '-' then .documentStart else .documentEnd)
  else if c == '[' then s.openFlow .flowSequence
  else if c == '\x7b' then s.openFlow .flowMapping
  else if c == ']' then s.closeFlow .flowSequenceEnd
  else if c == '\x7d' then s.closeFlow .flowMappingEnd
  else if c == ',' then s.flowEntry
  else if c == '-' && endsWord rest then s.blockEntry
  else if c == '?' && (s.inFlow || endsWord rest) then s.keyMark
  else if c == ':' && (s.inFlow || endsWord rest) then s.valueMark
  else if c == '*' then s.named .reference
  else if c == '&' then s.named .anchor
  else if c == '!' then s.tag
  else if c == '|' && !s.inFlow then s.block false
  else if c == '>' && !s.inFlow then s.block true
  else if c == '\'' then s.quoted false
  else if c == '"' then s.quoted true
  else if startsPlain s.inFlow c rest then s.plain
  else none

def run : Nat → Scan → Option (List Token)
  | 0, _ => none
  | fuel + 1, s =>
      match (toToken (s.place.rest.length + 1) s).dropStale with
      | none => none
      | some s =>
          match s.place.rest with
          | [] => (unroll (-1) (s.indents.length + 1) s).forget.map (·.tokens.reverse)
          | c :: rest =>
              match token (unroll s.place.column (s.indents.length + 1) s) c rest with
              | none => none
              | some s => run fuel s

end Scan

/-- The tokens of a text; `none` when it is no YAML. A mark of the byte order before it does
  not count. -/
def tokens? (text : List Char) : Option (List Token) :=
  let text := if text.head? == some '\ufeff' then text.drop 1 else text
  if text.all isAllowed then Scan.run (text.length + 1) (.start text) else none

end Terralens.Yaml
