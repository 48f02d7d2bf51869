import Subgraph.Federation.Gather

/-!
Resolving the representations of a request: what each of them comes to at first, and what all of
them come to once everything pending has been awaited.
-/

namespace Subgraph.Federation

/-- The slots of representations, the log records written before any waiting, and the calls of
reference functions, in order. -/
structure Resolution where
  slots : List Slot
  records : List LogRecord
  calls : List ReferenceCall

/-- Resolves representations in order, after a number of counted calls. -/
def resolve (s : Schema) (c : Classification) (r : Request) (before : Nat) (reps : List Value) :
    Resolution :=
  let rs := resolveAll s c r before reps
  ⟨rs.map (·.slot),
   debug ("Resolving " ++ toString reps.length ++ " entity representations")
     :: rs.flatMap (·.records),
   rs.filterMap (·.call)⟩

/-- What is resolved for a representation stands in its position, after some number of counted calls. -/
theorem resolveAll_getElem? {s : Schema} {c : Classification} {r : Request} {n : Nat} {rep : Value}
    {reps : List Value} {i : Nat} (h : reps[i]? = some rep) :
    ∃ k, (resolveAll s c r n reps)[i]? = some (resolveOne s c r k rep) := by
  induction reps generalizing n i with
  | nil => cases h
  | cons first reps ih =>
    cases i with
    | zero =>
      obtain rfl : first = rep := Option.some.inj h
      exact ⟨n, rfl⟩
    | succ i => exact ih h

namespace Resolution

def isPending (x : Resolution) : Bool := x.slots.any Slot.isPending

/-- One value for each representation, in their order. -/
def values (x : Resolution) : Except Failure (List Value) := gatherValues x.slots

def events (x : Resolution) : List Event := schedule x.slots

theorem length_resolveAll (s : Schema) (c : Classification) (r : Request) (before : Nat)
    (reps : List Value) : (resolveAll s c r before reps).length = reps.length := by
  induction reps generalizing before with
  | nil => rfl
  | cons rep reps ih => simp [resolveAll, ih]

@[simp] theorem length_slots (s : Schema) (c : Classification) (r : Request) (before : Nat)
    (reps : List Value) : (resolve s c r before reps).slots.length = reps.length := by
  simp [resolve, length_resolveAll]

end Resolution
end Subgraph.Federation
