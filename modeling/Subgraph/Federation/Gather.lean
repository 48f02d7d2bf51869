import Subgraph.Federation.Entities
import Subgraph.Federation.Moment

/-!
Waiting for answers together.

All pending answers start in order, one turn after they are set going; one that yields `n` times
ends `n` turns later, and the answers of a turn end in order. What fails takes the place of its
entity; only an interruption fails the whole, and that after everything has ended.
-/

namespace Subgraph.Federation

/-- What happens at a moment: traces and log records. -/
structure Event where
  moment : Moment
  trace : List String
  records : List LogRecord

/-- The final value of an answer, where it is not an interruption. -/
def delivered (type : Option String) : Outcome → Except Failure Value
  | .value v => .ok (match type with
    | some t => tag t v
    | none => v)
  | .failed f => .ok (.failure f)
  | .interrupted f => .error f

def Slot.value : Slot → Except Failure Value
  | .done v => .ok v
  | .pending type _ _ _ o => delivered type o

def Slot.isPending : Slot → Bool
  | .done _ => false
  | .pending .. => true

def Slot.yields : Slot → Nat
  | .done _ => 0
  | .pending _ n _ _ _ => n

def outcomeRecords (type : Option String) : Outcome → List LogRecord
  | .value v => type.toList.flatMap (tagRecords · v)
  | _ => []

/-- What happens when a slot is set going at a moment. -/
def Slot.events (m : Moment) : Slot → List Event
  | .done _ => []
  | .pending type n start finish o =>
    [⟨m, start, []⟩, ⟨m.later n, finish, outcomeRecords type o⟩]

/-- The pending slots, each with the moment at which it starts. -/
def started (m : Moment) (slots : List Slot) : List (Moment × Slot) :=
  (slots.filter Slot.isPending).zipIdx.map fun (s, i) => (m.next i, s)

/-- What is in the place of a slot before any waiting. -/
def Slot.cell : Slot → Option Value
  | .done v => some v
  | .pending .. => none

/-- What a slot that is awaited comes to. -/
def Slot.outcome? : Slot → Option (Except Failure Value)
  | .done _ => none
  | .pending type _ _ _ o => some (delivered type o)

def pendingPositions (slots : List Slot) : List Nat :=
  (slots.zipIdx.filter (·.1.isPending)).map (·.2)

/-- What the slots at some positions come to when they are awaited together, in the order of these
positions. -/
def awaited (slots : List Slot) (positions : List Nat) : List (Except Failure Value) :=
  positions.filterMap fun i => slots[i]?.bind Slot.outcome?

/-- Writes outcomes to their positions, up to the first interruption. -/
def spread (cells : List (Option Value)) :
    List (Nat × Except Failure Value) → Except Failure (List (Option Value))
  | [] => .ok cells
  | (i, .ok v) :: r => spread (cells.set i (some v)) r
  | (_, .error f) :: _ => .error f

/-- The values of all slots when the pending ones have come to some outcomes. -/
def gatherOutcomes (slots : List Slot) (outcomes : List (Except Failure Value)) :
    Except Failure (List Value) :=
  (spread (slots.map Slot.cell) ((pendingPositions slots).zip outcomes)).map fun cells =>
    cells.filterMap id

/-- The values of all slots in order, or the first interruption. -/
def gatherValues (slots : List Slot) : Except Failure (List Value) :=
  gatherOutcomes slots (awaited slots (pendingPositions slots))

/-- A warning for every outcome that is a failure, with its position, up to the first interruption. -/
def failureRecords : List (Nat × Except Failure Value) → List LogRecord
  | (i, .ok (.failure f)) :: r =>
    warning ("Failed to resolve entity at position " ++ toString i ++ ": " ++ f.message)
      :: failureRecords r
  | (_, .ok _) :: r => failureRecords r
  | _ => []

/-- Events in the order of their moments, those of a moment in the order given. -/
def inOrder (events : List Event) : List Event := events.mergeSort fun a b => a.moment.le b.moment

/-- The moment at which all slots that are set going at a moment have ended and the waiting is
over. -/
def gathered (m : Moment) (slots : List Slot) : Moment :=
  (Moment.latest m ((started m slots).map fun (n, s) => n.later s.yields)).resumed

/-- What happens from a moment on until all slots have ended; the warnings come when the waiting
is over. -/
def gatherEvents (m : Moment) (slots : List Slot) : List Event :=
  (started m slots).flatMap (fun (n, s) => s.events n)
    ++ [⟨gathered m slots, [], failureRecords ((pendingPositions slots).zip
      (awaited slots (pendingPositions slots)))⟩]

/-- What happens when slots are awaited together, in order. -/
def schedule (slots : List Slot) : List Event := inOrder (gatherEvents .start slots)

def traceOf (events : List Event) : List String := events.flatMap (·.trace)

def recordsOf (events : List Event) : List LogRecord := events.flatMap (·.records)

end Subgraph.Federation
