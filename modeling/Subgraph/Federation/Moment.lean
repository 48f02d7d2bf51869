/-!
When things happen while many tasks take turns.

A task runs until it waits; what it sets going runs later, in the order in which it was set going.
So a moment is told by its way from the beginning: each number says which of the things that were
set going at the moment before it is. Shorter ways come first, those of one length in dictionary
order.
-/

namespace Subgraph.Federation

abbrev Moment := List Nat

namespace Moment

def start : Moment := []

/-- The moment at which the `i`th thing that is set going at a moment runs. -/
def next (m : Moment) (i : Nat) : Moment := m ++ [i]

/-- The moment after a number of turns that a task leaves to others. -/
def later (m : Moment) (yields : Nat) : Moment := m ++ List.replicate yields 0

/-- The moment at which a task goes on that waits for others, the last of which ends at `m`: the
end is noticed one turn later, and the task runs in the turn after that. -/
def resumed (m : Moment) : Moment := m.later 2

def dictionaryLe : Moment → Moment → Bool
  | [], _ => true
  | _ :: _, [] => false
  | a :: r, b :: t => a < b || (a == b && dictionaryLe r t)

def le (a b : Moment) : Bool :=
  a.length < b.length || (a.length == b.length && dictionaryLe a b)

/-- The last of some moments, or the given one if there are none. -/
def latest (m : Moment) (ms : List Moment) : Moment :=
  ms.foldl (fun a b => if le a b then b else a) m

@[simp] theorem length_next (m : Moment) (i : Nat) : (m.next i).length = m.length + 1 := by
  simp [next]

@[simp] theorem length_later (m : Moment) (n : Nat) : (m.later n).length = m.length + n := by
  simp [later]

end Moment
end Subgraph.Federation
