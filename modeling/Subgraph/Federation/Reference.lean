import Subgraph.Value.Basic

/-!
Reference functions: they turn a representation into an entity.

A function answers at once or later. A later answer is delivered in a round of its own; rounds
are counted in yields. Functions may count their calls, and are told the count before.
-/

namespace Subgraph.Federation

/-- What a function is told about the request that it answers. -/
structure Request where
  context : Value
  field : String
  parentType : String
  deriving Inhabited

/-- An interruption is no ordinary failure: it ends what waits for the answer. -/
inductive Outcome where
  | value (v : Value)
  | failed (f : Failure)
  | interrupted (f : Failure)
  deriving Repr, Inhabited

def Outcome.ofExcept : Except Failure Value → Outcome
  | .ok v => .value v
  | .error f => .failed f

/-- `now` is a value or an ordinary failure; nothing waits that could be interrupted. `later` records
`atStart` when it starts and `atFinish` when it ends, after `yields` yields. -/
inductive Answer where
  | now (r : Except Failure Value)
  | later (yields : Nat) (atStart atFinish : List String) (o : Outcome)
  deriving Repr, Inhabited

structure Reference where
  name : String
  /-- Whether a call with this representation is counted. -/
  counts : Value → Bool
  answer : Nat → Value → Request → Answer
  deriving Inhabited

end Subgraph.Federation
