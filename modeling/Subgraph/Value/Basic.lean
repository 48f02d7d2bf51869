import Subgraph.Decimal.Shortest
import Subgraph.Entries

/-!
Values that flow through an execution: representations, entities, arguments and results.

Records are what a representation has to be. Objects are values of the host program with
attributes; an open one takes new attributes, a sealed one keeps the ones it has. A failure
can travel as a value, in place of the entity that could not be resolved. A variable without
a value leaves `missing` where it is used inside a larger value.
-/

namespace Subgraph

inductive ObjectKind where
  | entity
  | slots
  deriving DecidableEq, Repr, Inhabited

/-- Only open objects take new attributes. -/
def ObjectKind.isOpen : ObjectKind → Bool
  | .entity => true
  | .slots => false

/-- What went wrong, by its kind and its text. -/
structure Failure where
  kind : String
  message : String
  deriving DecidableEq, Repr, Inhabited

inductive Value where
  | null
  | bool (b : Bool)
  | int (n : Int)
  | float (d : Double)
  | text (s : String)
  | list (items : List Value)
  | record (entries : List (String × Value))
  | object (kind : ObjectKind) (attributes : List (String × Value))
  | failure (f : Failure)
  | missing
  deriving Repr, Inhabited

namespace Value

def kindName : Value → String
  | .null => "NoneType"
  | .bool _ => "bool"
  | .int _ => "int"
  | .float _ => "float"
  | .text _ => "str"
  | .list _ => "list"
  | .record _ => "dict"
  | .object .entity _ => "Entity"
  | .object .slots _ => "Slots"
  | .failure f => f.kind
  | .missing => "UndefinedType"

/-- Nothing is there: null, or no value at all. -/
def isNull : Value → Bool
  | .null => true
  | .missing => true
  | _ => false

/-- Nothing, zero and emptiness count as false. -/
def isTruthy : Value → Bool
  | .null => false
  | .bool b => b
  | .int n => n ≠ 0
  | .float d => !d.isZero
  | .text s => s ≠ ""
  | .list xs => !xs.isEmpty
  | .record es => !es.isEmpty
  | .object .. => true
  | .failure _ => true
  | .missing => false

/-- The entry of a record or the attribute of an object. -/
def member? (v : Value) (name : String) : Option Value :=
  match v with
  | .record es => Entries.get? es name
  | .object _ as => Entries.get? as name
  | _ => none

def hasMember (v : Value) (name : String) : Bool := (v.member? name).isSome

def memberOrNull (v : Value) (name : String) : Value := (v.member? name).getD .null

/-- The integer that a number stands for, if it is one; booleans are no numbers here. -/
def integer? : Value → Option Int
  | .int n => some n
  | .float d => d.toInt?
  | _ => none

end Value
end Subgraph
