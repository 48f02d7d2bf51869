import Subgraph.Console.Literal.Syntax
import Subgraph.Decimal.Arithmetic

/-!
What expressions stand for as literal values: constants, signed numbers and sums of a number and an
imaginary one, and collections. What is an item of a set or a key must not be a collection that can
change.
-/

namespace Subgraph.Console.Literal

/-- How a number matters in a sum. -/
inductive Number where
  | int (n : Nat)
  | float
  | imaginary

namespace Expr

/-- An expression that is a number without a sign. -/
def number : Expr → Except Fault Number
  | .constant (.int n) => .ok (.int n)
  | .constant .float => .ok .float
  | .constant .imaginary => .ok .imaginary
  | _ => .error (.notLiteral true)

def isSign (s : String) : Bool := s == "+" || s == "-"

/-- An expression that is a number with or without a sign. -/
def signedNumber : Expr → Except Fault Number
  | .unary s e => if isSign s then e.number else .error (.notLiteral true)
  | e => e.number

/-- Checks a sum of a number and an imaginary one. -/
def checkSum (left right : Expr) : Except Fault Unit := do
  let l ← left.signedNumber
  let r ← right.number
  match l, r with
  | .int n, .imaginary => if (Double.ofInt? n).isNone then throw .tooLarge
  | .float, .imaginary => return ()
  | _, _ => throw (.notLiteral true)

/-- Refuses an item of a set or a key that can change. -/
def refuse : Option String → Except Fault Unit
  | some kind => .error (.unhashable kind)
  | none => .ok ()

mutual
/-- Checks that an expression is a literal value, and gives the collection that can change in it, if
there is one. -/
def changing : Expr → Except Fault (Option String)
  | .constant _ => .ok none
  | .tuple items => changingAmong items
  | .set items => do
    checkItems items
    return some "set"
  | .dict entries => do
    checkEntries entries
    return some "dict"
  | .call (some (.name "set")) [] [] => .ok (some "set")
  | .binary s left right => do
    if isSign s then checkSum left right else throw (.notLiteral true)
    return none
  | e => do
    let _ ← e.signedNumber
    return none
def changingAmong : List Expr → Except Fault (Option String)
  | [] => .ok none
  | e :: es => do
    let first ← changing e
    return first.or (← changingAmong es)
def checkItems : List Expr → Except Fault Unit
  | [] => .ok ()
  | e :: es => do
    refuse (← changing e)
    checkItems es
def checkEntries : List Expr → Except Fault Unit
  | [] => .ok ()
  | .entry (some k) v :: es => do
    let kind ← changing k
    let _ ← changing v
    refuse kind
    checkEntries es
  | _ => .error (.notLiteral false)
end

end Expr
end Subgraph.Console.Literal
