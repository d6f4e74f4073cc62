import Terralens.Hcl.Collection
import Terralens.Hcl.Number

/-!
# Reading expressions

An expression is an operand followed by traversals, operators and conditionals. There
are no precedences: the right side of an operator is all that follows, up to a
conditional. A conditional therefore has everything before it as its condition.

`expressionUpTo` ties the knot: the expressions inside an expression are read with one
unit of fuel less, and there cannot be more levels than characters.
-/

namespace Terralens.Hcl

/-- The characters that may start an expression, as a message lists them. -/
def expressionStarts : List String :=
  (['"', '[', '\x7b', '-', '!', '(', '_', '<']).map charName ++ ["letter", "digit"]

def moreNames (breaks : Bool) : Reader (List String) :=
  Reader.many (do
    Reader.word [':', ':']
    trivia breaks
    let name ← requireIdentifier
    trivia breaks
    pure name)

def ofName (name : String) : Expression :=
  if name == "null" then .null
  else if name == "true" then .bool true
  else if name == "false" then .bool false
  else .variable name

def startsCall : List Char → Bool
  | '(' :: _ => true
  | ':' :: ':' :: _ => true
  | _ => false

def named (nested : Nested) (breaks : Bool) : Reader Expression := do
  let name ← identifier
  let s ← Reader.ahead
  if startsCall (skipTrivia breaks s.length s) then
    trivia breaks
    let more ← moreNames breaks
    let s ← Reader.ahead
    match s with
    | '(' :: _ =>
        let (arguments, spread) ← callArguments nested
        pure (.call ("::".intercalate (name :: more)) arguments spread)
    | _ =>
        requireChar '('
        Reader.refuse
  else pure (ofName name)

def parenthesized (nested : Nested) : Reader Expression := do
  Reader.char '('
  let inner ← spaced (nested .open)
  requireChar ')'
  pure (.parens inner)

def quotedTerm (nested : Nested) : Reader Expression :=
  Reader.orElse (do let text ← quotedText; pure (.string text))
    (do let text ← quotedTemplate nested; pure (.template (String.ofList text)))

/-- The reader of the expressions between square brackets and of the arguments of a call:
  where a conditional may not stand around them, none may stand in them. -/
def Nested.within (nested : Nested) (mode : Mode) : Nested := fun m =>
  nested { m with conditional := m.conditional && mode.conditional }

def plainOperand (nested : Nested) (mode : Mode) : Reader Expression := do
  let c ← Reader.peek
  if c == '"' then quotedTerm nested
  else if c == '[' then array (nested.within mode)
  else if c == '\x7b' then object nested
  else if c.isDigit then do let n ← numeral; pure (.number n)
  else if c == '<' then heredoc nested
  else if c == '(' then parenthesized nested
  else if Text.Property.isIdentifierStart c then named (nested.within mode) mode.breaks
  else ((Reader.refuse).cut).expecting (some "expression") expressionStarts

def applied (op : Option UnaryOp) (operand : Reader Expression) : Reader Expression :=
  match op with
  | none => operand
  | some op => do
      Reader.emit op.text.toList
      let e ← operand
      pure (.unary op e)

/-- An operand and the operators before it, at most `fuel` of them. Of several operators
  only the last applies; a minus sign before a number belongs to the number. -/
def operandUpTo (nested : Nested) (mode : Mode) : Nat → Option UnaryOp → Reader Expression
  | 0, _ => Reader.refuse
  | fuel + 1, op => do
      let c ← Reader.peek
      if c == '-' then
        Reader.orElse (applied op (do let n ← negativeNumeral; pure (.number n)))
          (do
            Reader.hidden (do Reader.char '-'; sp)
            operandUpTo nested mode fuel (some .negate))
      else if c == '!' then
        Reader.hidden (do Reader.char '!'; sp)
        operandUpTo nested mode fuel (some .invert)
      else applied op (plainOperand nested mode)

def operand (nested : Nested) (mode : Mode) : Reader Expression := fun s =>
  operandUpTo nested mode (s.length + 1) none s

def operatorOf (a b : Char) : Option (BinaryOp × Nat) :=
  if b == '=' then
    if a == '=' then some (.equal, 2)
    else if a == '!' then some (.differ, 2)
    else if a == '<' then some (.atMost, 2)
    else if a == '>' then some (.atLeast, 2)
    else simple a
  else if a == '&' && b == '&' then some (.both, 2)
  else if a == '|' && b == '|' then some (.either, 2)
  else simple a
where
  simple (a : Char) : Option (BinaryOp × Nat) :=
    if a == '<' then some (.less, 1)
    else if a == '>' then some (.greater, 1)
    else if a == '+' then some (.plus, 1)
    else if a == '-' then some (.minus, 1)
    else if a == '*' then some (.times, 1)
    else if a == '/' then some (.divide, 1)
    else if a == '%' then some (.remainder, 1)
    else none

def binaryOperator : Reader BinaryOp := do
  let s ← Reader.ahead
  match s with
  | a :: b :: _ =>
      match operatorOf a b with
      | some (op, 1) =>
          Reader.char a
          pure op
      | some (op, _) =>
          Reader.word [a, b]
          pure op
      | none => Reader.refuse
  | _ => Reader.refuse

/-- Whether an operator between two operands seems to start with two characters. -/
def promisesOperator (a b : Char) : Bool :=
  (a == '=' && b == '=') || ['!', '<', '>', '+', '-', '*', '/', '%', '&', '|'].contains a

inductive Sequel where
  | steps
  | conditional
  | operator
  | nothing
deriving DecidableEq

/-- What follows an operand, told by the next two characters after the blanks. -/
def sequelOf (mode : Mode) : List Char → Sequel
  | a :: b :: _ =>
      if (a == '/' && (b == '/' || b == '*')) || (a == '.' && b == '.') then .nothing
      else if a == '.' || a == '[' then .steps
      else if a == '?' then (if mode.conditional then .conditional else .nothing)
      else if promisesOperator a b then .operator
      else .nothing
  | _ => .nothing

def conditionalEnd (nested : Nested) (breaks : Bool) (condition : Expression) :
    Reader Expression := do
  trivia breaks
  Reader.char '?'
  trivia breaks
  let yes ← nested ⟨breaks, true⟩
  trivia breaks
  requireChar ':'
  trivia breaks
  let no ← nested ⟨breaks, true⟩
  pure (.conditional condition yes no)

def operatorEnd (nested : Nested) (breaks : Bool) (left : Expression) : Reader Expression := do
  trivia breaks
  let op ← binaryOperator
  trivia breaks
  let right ← nested ⟨breaks, false⟩
  pure (.binary op left right)

/-- What follows an operand, at most `fuel` parts of it. -/
def sequelUpTo (nested : Nested) (mode : Mode) : Nat → Expression → Reader Expression
  | 0, e => pure e
  | fuel + 1, e => do
      let s ← Reader.ahead
      match sequelOf mode (skipTrivia mode.breaks s.length s) with
      | .nothing => pure e
      | .steps =>
          let steps ← Reader.many1 (accessStep (nested.within mode) mode.breaks)
          sequelUpTo nested mode fuel (.traversal e steps)
      | .conditional =>
          let e ← conditionalEnd nested mode.breaks e
          sequelUpTo nested mode fuel e
      | .operator =>
          let e ← operatorEnd nested mode.breaks e
          sequelUpTo nested mode fuel e

def expressionWith (nested : Nested) (mode : Mode) : Reader Expression := do
  let e ← operand nested mode
  let s ← Reader.ahead
  sequelUpTo nested mode (s.length + 1) e

/-- The reader of expressions with at most `fuel` levels. -/
def expressionUpTo : Nat → Nested
  | 0 => fun _ => Reader.refuse
  | fuel + 1 => expressionWith (expressionUpTo fuel)

def expression : Reader Expression := fun s => expressionUpTo (s.length + 1) .line s

end Terralens.Hcl
