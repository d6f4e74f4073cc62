import Terralens.Hcl.Number

/-!
# Expressions

The expressions of the configuration language, without the blanks and comments they were
written with. A template keeps its text: what stands between its literal parts is
never evaluated, only shown again.
-/

namespace Terralens.Hcl

inductive UnaryOp where
  | negate
  | invert
deriving DecidableEq, Repr

inductive BinaryOp where
  | equal | differ | atMost | atLeast | less | greater
  | plus | minus | times | divide | remainder
  | both | either
deriving DecidableEq, Repr

mutual

/-- An expression. Keys of an object are expressions; a lone variable as a key stands for
  its own name. -/
inductive Expression where
  | null
  | bool (value : Bool)
  | number (value : Number)
  | string (value : String)
  | array (items : List Expression)
  | object (items : List (Expression × Expression))
  | template (text : String)
  /-- A template of whole lines; `indented` when blanks were removed from its lines. -/
  | heredoc (indented : Bool) (delimiter text : String)
  | variable (name : String)
  | traversal (base : Expression) (steps : List Access)
  | call (name : String) (arguments : List Expression) (spread : Bool)
  | parens (inner : Expression)
  | conditional (condition yes no : Expression)
  | unary (op : UnaryOp) (operand : Expression)
  | binary (op : BinaryOp) (left right : Expression)
  | forArray (names : List String) (source item : Expression) (condition : Option Expression)
  | forObject (names : List String) (source key item : Expression) (grouped : Bool)
      (condition : Option Expression)

inductive Access where
  | attribute (name : String)
  | position (index : Nat)
  | index (key : Expression)
  | attributeSplat
  | fullSplat

end

def UnaryOp.text : UnaryOp → String
  | .negate => "-"
  | .invert => "!"

def BinaryOp.text : BinaryOp → String
  | .equal => "=="
  | .differ => "!="
  | .atMost => "<="
  | .atLeast => ">="
  | .less => "<"
  | .greater => ">"
  | .plus => "+"
  | .minus => "-"
  | .times => "*"
  | .divide => "/"
  | .remainder => "%"
  | .both => "&&"
  | .either => "||"

end Terralens.Hcl
