import Subgraph.Text.Width

/-!
The columns of texts on a console.

In a text, what follows a joiner is drawn over what stands before it, and a selector can make the
character before it wide. A text is cut between clusters only: a character that takes columns and
all that is drawn over it.
-/

namespace Subgraph.Text

def joiner : Char := '\u200d'
def wideSelector : Char := '\ufe0f'

/-- The columns of a text behind a character that takes some, if there is one. -/
def columnsAfter (last : Option Char) : List Char → Nat
  | [] => 0
  | c :: r =>
    if c = joiner then
      match r with
      | [] => 0
      | _ :: r => columnsAfter last r
    else if c = wideSelector then
      (if last.any (isIn widenedRanges) then 1 else 0) + columnsAfter none r
    else
      let n := columnsOf c
      n + columnsAfter (if n = 0 then last else some c) r

/-- The columns of a text. -/
def columns (cs : List Char) : Nat := columnsAfter none cs

/-- Characters that are drawn over each other, and the columns that they take. -/
structure Cluster where
  chars : List Char
  columns : Nat
  deriving DecidableEq, Repr

namespace Cluster

def blank : Cluster := ⟨[' '], 1⟩

/-- A cluster with one more character drawn over it; with nothing to draw over, the character
stands alone and takes no columns. -/
def under (k : Option Cluster) (c : Char) : Cluster :=
  match k with
  | none => ⟨[c], 0⟩
  | some k => ⟨k.chars ++ [c], k.columns⟩

def widened (k : Cluster) : Cluster := ⟨k.chars, k.columns + 1⟩

/-- The clusters of a text behind one that may go on, with the character that gave it its columns.
The character after a joiner is drawn over what stands before, if something does. -/
def scan (joins : Bool) (k : Option Cluster) (last : Option Char) : List Char → List Cluster
  | [] => k.toList
  | c :: r =>
    if joins then scan false (under k c) last r
    else if c = joiner then scan k.isSome (under k c) last r
    else if c = wideSelector && last.any (isIn widenedRanges) then
      scan false (under k c).widened none r
    else if c = wideSelector || columnsOf c = 0 then scan false (under k c) last r
    else k.toList ++ scan false (some ⟨[c], columnsOf c⟩) (some c) r

/-- Every character is in one cluster, in order. -/
theorem flatMap_chars_scan (joins : Bool) (k : Option Cluster) (last : Option Char)
    (cs : List Char) :
    (scan joins k last cs).flatMap chars = k.toList.flatMap chars ++ cs := by
  induction cs generalizing joins k last with
  | nil => simp [scan]
  | cons c r ih =>
    simp only [scan]
    repeat' split
    all_goals cases k <;> simp [ih, under, widened]

/-- The columns that a row of clusters takes. -/
def width : List Cluster → Nat
  | [] => 0
  | k :: r => k.columns + width r

theorem width_replicate_blank (n : Nat) : width (List.replicate n blank) = n := by
  induction n with
  | zero => rfl
  | succ n ih =>
    simp only [List.replicate_succ, width, ih]
    exact Nat.add_comm 1 n

/-- The front of a row that takes a number of columns. Blanks stand for what would go beyond, and
at the end of a row that is too short. -/
def front : Nat → List Cluster → List Cluster
  | n, [] => List.replicate n blank
  | n, k :: r => if k.columns ≤ n then k :: front (n - k.columns) r else List.replicate n blank

/-- A front takes the columns that it is asked for. -/
theorem width_front (n : Nat) (ks : List Cluster) : width (front n ks) = n := by
  induction ks generalizing n with
  | nil => exact width_replicate_blank n
  | cons k r ih =>
    simp only [front]
    split
    · simp only [width, ih]; omega
    · exact width_replicate_blank n

end Cluster

def clusters (cs : List Char) : List Cluster := Cluster.scan false none none cs

/-- A text cut, or filled up with blanks, to a number of columns. -/
def fitted (n : Nat) (cs : List Char) : List Char :=
  if columns cs ≤ n then cs ++ List.replicate (n - columns cs) ' '
  else (Cluster.front n (clusters cs)).flatMap Cluster.chars

end Subgraph.Text
