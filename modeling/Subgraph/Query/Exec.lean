import Subgraph.Federation.Resolution
import Subgraph.Query.Variables

/-!
Steps of an execution.

A step gives a result, or an error that takes the nearest value that may be null. Besides it
notes the errors that were settled below it, what has to be waited for, log records, and how many
counted calls it made. `Exec.absorb` settles an error: nothing takes the place of the value, and
what was to be waited for below it is dropped with what would come of it.
-/

namespace Subgraph

/-- An error of a query with its positions in the document; one outside the data has no path. -/
structure QueryError where
  positions : List Nat
  path : Option Path
  message : String
  deriving DecidableEq, Repr, Inhabited

/-- What has to be waited for: answers, with the errors and log records of completing them and
what has to be waited for then; or several parts together. -/
inductive Waiting where
  | answers (slots : List Federation.Slot) (errors : List QueryError) (records : List LogRecord)
      (after : List Waiting)
  | parts (parts : List Waiting)
  deriving Inhabited

namespace Waiting
open Federation

mutual
/-- The errors of what completes at last. -/
def errors : Waiting → List QueryError
  | .answers _ es _ after => es ++ allErrors after
  | .parts ws => allErrors ws
def allErrors : List Waiting → List QueryError
  | [] => []
  | w :: ws => w.errors ++ allErrors ws
end

mutual
/-- What happens when the waiting starts at a moment, and the moment at which it is over. -/
def timeline (m : Moment) : Waiting → List Event × Moment
  | .answers slots _ records after =>
    let finish := gathered m slots
    let (events, last) := inTurn finish after
    (gatherEvents m slots ++ ⟨finish, [], records⟩ :: events, last)
  | .parts ws =>
    let (events, ends) := together m 0 ws
    (events, (Moment.latest m ends).resumed)
/-- Each of several starts as a thing of its own. -/
def together (m : Moment) (i : Nat) : List Waiting → List Event × List Moment
  | [] => ([], [])
  | w :: ws =>
    let (events, last) := timeline (m.next i) w
    let (more, ends) := together m (i + 1) ws
    (events ++ more, last :: ends)
/-- Each starts when the one before is over. -/
def inTurn (m : Moment) : List Waiting → List Event × Moment
  | [] => ([], m)
  | w :: ws =>
    let (events, finish) := timeline m w
    let (more, last) := inTurn finish ws
    (events ++ more, last)
end

/-- What happens when several are waited for in turn, in order. -/
def events (ws : List Waiting) : List Event := Federation.inOrder (inTurn .start ws).1

end Waiting

structure Notes where
  errors : List QueryError
  waiting : List Waiting
  records : List LogRecord
  calls : Nat
  deriving Inhabited

namespace Notes

def empty : Notes := ⟨[], [], [], 0⟩

def append (a b : Notes) : Notes :=
  ⟨a.errors ++ b.errors, a.waiting ++ b.waiting, a.records ++ b.records, a.calls + b.calls⟩

instance : Append Notes := ⟨append⟩

@[simp] theorem empty_append (n : Notes) : empty ++ n = n := by
  show append empty n = n
  cases n; simp [append, empty]

@[simp] theorem append_empty (n : Notes) : n ++ empty = n := by
  show append n empty = n
  cases n; simp [append, empty]

theorem append_assoc (a b c : Notes) : a ++ b ++ c = a ++ (b ++ c) := by
  show append (append a b) c = append a (append b c)
  cases a; cases b; cases c; simp [append, Nat.add_assoc]

end Notes

/-- A step is told how many counted calls came before it. -/
def Exec (α : Type) := Nat → Except QueryError α × Notes

namespace Exec
variable {α β : Type}

def pure (a : α) : Exec α := fun _ => (.ok a, .empty)

def fail (e : QueryError) : Exec α := fun _ => (.error e, .empty)

def bind (m : Exec α) (f : α → Exec β) : Exec β := fun n =>
  match m n with
  | (.ok a, notes) =>
    let (r, more) := f a (n + notes.calls)
    (r, notes ++ more)
  | (.error e, notes) => (.error e, notes)

instance : Monad Exec where
  pure := pure
  bind := bind

def note (notes : Notes) : Exec Unit := fun _ => (.ok (), notes)

def calls : Exec Nat := fun n => (.ok n, .empty)

/-- Gives the error a path and positions, unless it has them. -/
def located (positions : List Nat) (path : Path) (m : Exec α) : Exec α := fun n =>
  match m n with
  | (.error e, notes) =>
    let e := if e.path.isSome then e
      else ⟨if e.positions.isEmpty then positions else e.positions, some path, e.message⟩
    (.error e, notes)
  | r => r

/-- Settles an error where null is allowed. -/
def absorb (m : Exec Value) : Exec Value := fun n =>
  match m n with
  | (.error e, notes) => (.ok .null, { notes with errors := notes.errors ++ [e], waiting := [] })
  | r => r

/-- Makes a step wait for the answers that it is made from. -/
def afterwards (slots : List Federation.Slot) (m : Exec α) : Exec α := fun n =>
  let (r, notes) := m n
  (r, { notes with
    errors := []
    records := []
    waiting := [.answers slots notes.errors notes.records notes.waiting] })

/-- Waits for everything together that is to be waited for. -/
def together (m : Exec α) : Exec α := fun n =>
  let (r, notes) := m n
  (r, if notes.waiting.isEmpty then notes else { notes with waiting := [.parts notes.waiting] })

def settle (t : TypeRef) (m : Exec Value) : Exec Value := if t.isNonNull then m else absorb m

def ofExcept (r : Except String α) : Exec α :=
  match r with
  | .ok a => pure a
  | .error m => fail ⟨[], Option.none, m⟩

/-- An issue of selections or arguments that shows when they are read. -/
def ofScope (r : Except Issue α) : Exec α :=
  match r with
  | .ok a => pure a
  | .error i => fail ⟨i.positions, Option.none, i.message⟩

end Exec
end Subgraph
