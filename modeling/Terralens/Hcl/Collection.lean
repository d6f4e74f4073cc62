import Terralens.Hcl.Layout
import Terralens.Hcl.Template

/-!
# Reading collections

Arrays, objects, the `for` expressions in their brackets, call arguments and the steps of
a traversal, given the reader `nested` of the expressions inside.
-/

namespace Terralens.Hcl

/-- Whether a `for` expression follows: the word, then a blank, a line break or a comment. -/
def startsFor (s : List Char) : Bool :=
  match Reader.stripWord "for".toList (skipTrivia true s.length s) with
  | some (c :: _) => c == ' ' || c == '\t' || c == '\n' || c == '#' || c == '/'
  | _ => false

/-- The names and the source of a `for`, up to its colon. -/
def forIntro (nested : Nested) : Reader (List String × Expression) := do
  ws
  Reader.word "for".toList
  let first ← spaced requireIdentifier
  let second ← Reader.optional (do Reader.char ','; spaced requireIdentifier)
  requireWord "in".toList
  let source ← spaced (nested .line)
  requireChar ':'
  pure (first :: second.toList, source)

/-- The condition at the end of a `for`. -/
def forCondition (nested : Nested) : Reader (Option Expression) :=
  Reader.optional (do
    ws
    Reader.word "if".toList
    spaced (nested .open))

/-- A `for` in square brackets, after its opening bracket. -/
def forArray (nested : Nested) : Reader Expression := do
  let (names, source) ← forIntro nested
  let item ← spaced (nested .open)
  let condition ← forCondition nested
  requireChar ']'
  pure (.forArray names source item condition)

/-- A `for` in braces, after its opening brace. -/
def forObject (nested : Nested) : Reader Expression := do
  let (names, source) ← forIntro nested
  let key ← spaced (nested .open)
  requireWord ['=', '>']
  let item ← spaced (nested .open)
  let grouped ← Reader.optional (do Reader.word ['.', '.', '.']; ws)
  let condition ← forCondition nested
  requireChar '\x7d'
  pure (.forObject names source key item grouped.isSome condition)

/-- An expression that none of the given characters starts. -/
def itemUnless (nested : Nested) (stops : List Char) : Reader Expression :=
  spaced (do
    let c ← Reader.peek
    if stops.contains c then Reader.refuse else nested .open)

def arrayItems (nested : Nested) : Reader Expression := do
  let items ← Reader.separated (itemUnless nested [',', ']']) (Reader.char ',')
  let _ ← Reader.optional (Reader.char ',')
  ws
  requireChar ']'
  pure (.array items)

/-- An array, or a `for` in its place. -/
def array (nested : Nested) : Reader Expression := do
  Reader.char '['
  let s ← Reader.ahead
  if startsFor s then forArray nested else arrayItems nested

def assignSign : Reader Unit := do
  let c ← Reader.any
  if c == '=' || c == ':' then pure ()
  else ((Reader.refuse).cut).expecting (some "object value assignment") [charName '=', charName ':']

def commentedLineEnd : Reader Unit := do
  let _ ← Reader.optional lineComment
  lineEnd

/-- What ends an item of an object: a comma, a line break, or the closing brace, which is
  left. -/
def itemEnd : Reader Unit := do
  let c ← Reader.peek
  if c == '\x7d' then pure ()
  else if c == ',' then Reader.char ','
  else if c == '\n' || c == '\r' || c == '#' || c == '/' then commentedLineEnd
  else
    ((Reader.refuse).cut).expecting (some "object item")
      [charName '\x7d', charName ',', charName '\n']

def objectItem (nested : Nested) : Reader (Expression × Expression) := do
  let key ← nested .line
  sp
  assignSign
  sp
  let value ← nested .line
  sp
  itemEnd
  pure (key, value)

/-- The items of an object up to its closing brace, at most `fuel` of them. -/
def objectItemsUpTo (nested : Nested) : Nat → Reader (List (Expression × Expression))
  | 0 => Reader.refuse
  | fuel + 1 => do
      ws
      let c ← Reader.peek
      if c == '\x7d' then pure []
      else
        let item ← objectItem nested
        let more ← objectItemsUpTo nested fuel
        pure (item :: more)

/-- Sets the value of a key among the items of an object. Keys are the same when they are
  written the same. -/
def setItem (key value : Expression) :
    List (Expression × Expression) → List (Expression × Expression)
  | [] => [(key, value)]
  | (k, v) :: rest =>
      if k.text == key.text then (k, value) :: rest else (k, v) :: setItem key value rest

/-- The items of an object. A repeated key stands where it stands first, with the value it
  is given last. -/
def mergeItems (items : List (Expression × Expression)) : List (Expression × Expression) :=
  items.foldl (fun kept (key, value) => setItem key value kept) []

/-- An object, or a `for` in its place. -/
def object (nested : Nested) : Reader Expression := do
  Reader.char '\x7b'
  let s ← Reader.ahead
  if startsFor s then forObject nested
  else
    let items ← objectItemsUpTo nested (s.length + 1)
    requireChar '\x7d'
    pure (.object (mergeItems items))

/-- What may follow the last argument of a call: a comma, or three points. -/
def argumentsEnd : Reader Bool := do
  let c ← Reader.any
  if c == ',' then pure false
  else if c == '.' then
    requireWord ['.', '.']
    pure true
  else Reader.refuse

/-- The arguments of a call, and whether the last is spread. -/
def callArguments (nested : Nested) : Reader (List Expression × Bool) := do
  Reader.char '('
  let items ← Reader.separated (itemUnless nested [',', '.', ')']) (Reader.char ',')
  let spread ← if items.isEmpty then pure none else Reader.optional argumentsEnd
  ws
  (requireChar ')').expecting none ["expression"]
  pure (items, spread.getD false)

def pointStep : Reader Access := do
  ws
  let c ← Reader.peek
  if c == '*' then
    Reader.char '*'
    pure .attributeSplat
  else if c.isDigit then
    let n ← wholeStep
    pure (.position n)
  else if Text.Property.isIdentifierStart c then
    let name ← identifier
    pure (.attribute name)
  else
    ((Reader.refuse).cut).expecting (some "traversal operator")
      [charName '*', "identifier", "unsigned integer"]
where
  /-- A position written in digits, of at most 64 bits. -/
  wholeStep : Reader Nat := do
    let ds ← Reader.span1 Char.isDigit
    let n := ds.foldl (fun n d => 10 * n + (d.toNat - '0'.toNat)) 0
    if n < Nat.pow 2 64 then pure n else Reader.refuse

def bracketStep (nested : Nested) : Reader Access := do
  let step ← spaced (do
    let c ← Reader.peek
    if c == '*' then
      Reader.char '*'
      pure .fullSplat
    else
      let key ← nested .open
      pure (.index key))
  requireChar ']'
  pure step

/-- One step of a traversal. Two points are none. -/
def accessStep (nested : Nested) (breaks : Bool) : Reader Access := do
  trivia breaks
  let s ← Reader.ahead
  match s with
  | '.' :: '.' :: _ => Reader.refuse
  | '.' :: _ =>
      Reader.char '.'
      pointStep
  | '[' :: _ =>
      Reader.char '['
      bracketStep nested
  | _ => Reader.refuse

end Terralens.Hcl
