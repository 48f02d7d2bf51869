import Subgraph.Console.Literal.Token

/-!
Expressions, as far as it matters for literal values what they are made of.
-/

namespace Subgraph.Console.Literal

inductive Constant where
  | int (n : Nat)
  | float
  | imaginary
  | word (s : String)
  | ellipsis
  | text
  | bytes
  deriving DecidableEq, Repr, Inhabited

inductive Expr where
  | name (s : String)
  | constant (c : Constant)
  | template
  | tuple (items : List Expr)
  | set (items : List Expr)
  | dict (entries : List Expr)
  /-- A key with its value, or without a key a mapping whose entries are taken over. -/
  | entry (key : Option Expr) (value : Expr)
  | call (function : Option Expr) (items entries : List Expr)
  /-- An argument with a name, or a mapping whose entries are arguments. -/
  | argument (isNamed : Bool)
  | starred (e : Expr)
  | attribute
  | comparison (isMembership : Bool) (left : Expr)
  | unary (sign : String) (e : Expr)
  | binary (sign : String) (left right : Expr)
  | other (kind : String)
  /-- What stands between quotes, before texts that follow each other are put together. -/
  | quoted (q : Quoted)
  deriving Inhabited

namespace Expr

/-- How a message names what stands in a place. -/
def kind : Expr → String
  | .name _ => "name"
  | .constant (.word s) => s
  | .constant .ellipsis => "ellipsis"
  | .constant _ => "literal"
  | .template => "f-string expression"
  | .tuple _ => "tuple"
  | .set _ => "set display"
  | .dict _ => "dict literal"
  | .call .. => "function call"
  | .starred _ => "starred"
  | .attribute => "attribute"
  | .comparison .. => "comparison"
  | .unary .. => "expression"
  | .binary .. => "expression"
  | .other k => k
  | _ => ""

/-- What cannot be the target of a loop, if something in an expression cannot. -/
def badTarget? : Expr → Option Expr
  | .name _ => none
  | .attribute => none
  | .tuple items => first items
  | .starred e => badTarget? e
  | .comparison isMembership left => if isMembership then badTarget? left else none
  | e => some e
where
  first : List Expr → Option Expr
    | [] => none
    | e :: es => (badTarget? e).or (first es)

def isStarred : Expr → Bool
  | .starred _ => true
  | _ => false

def isArgument : Expr → Bool
  | .argument _ => true
  | _ => false

/-- The functions that were once called without brackets. -/
def isBareFunction : Expr → Bool
  | .name s => s == "print" || s == "exec"
  | _ => false

end Expr
end Subgraph.Console.Literal
