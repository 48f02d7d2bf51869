import Subgraph.Text.Lines

/-!
Showing a place of a text: its line and column, the line itself with its neighbours, and a caret
below the column. Of a long line only the pieces around the column are shown.
-/

namespace Subgraph.Text

/-- A line and a column of a text, both counted from one. -/
structure Spot where
  line : Nat
  column : Nat
  deriving DecidableEq, Repr

/-- Where the character after `before` stands. -/
def Spot.after (before : List Char) : Spot :=
  let ls := lines before
  ⟨ls.length, (ls.getLast?.map List.length).getD 0 + 1⟩

/-- Spaces on the left up to a width. -/
def alignRight (width : Nat) (s : String) : String :=
  String.ofList (List.replicate (width - s.length) ' ') ++ s

theorem length_alignRight (width : Nat) (s : String) :
    (alignRight width s).length = max width s.length := by
  simp only [alignRight, String.length_append, String.length_ofList, List.length_replicate]
  omega

/-- Rows whose labels end at the same column. -/
def labelled (rows : List (String × String)) : String :=
  let width := (rows.map (·.1.length)).foldl max 0
  joinLines (rows.map fun (label, s) =>
    alignRight width label ++ if s.isEmpty then "" else " " ++ s)

def caret (column : Nat) : String × String := ("|", alignRight column "^")

def longLine : Nat := 120
def pieceLength : Nat := 80

/-- Pieces of a line, all of one length but the last. -/
def linePieces (l : List Char) : List String :=
  (List.range ((l.length + pieceLength - 1) / pieceLength)).map fun i =>
    String.ofList ((l.drop (pieceLength * i)).take pieceLength)

def lineLabel (n : Nat) : String := toString n ++ " |"

/-- The pieces up to the column, the caret and the piece after it. -/
def pieceRows (spot : Spot) (l : List Char) : List (String × String) :=
  let ps := linePieces l
  let i := spot.column / pieceLength
  let row := fun p => ("|", p)
  (ps.take 1).map (lineLabel spot.line, ·) ++ ((ps.take (i + 1)).drop 1).map row
    ++ [caret (spot.column % pieceLength)] ++ (ps[i + 1]?.map row).toList

/-- The line between its neighbours, with the caret below it. -/
def neighbourRows (spot : Spot) (ls : List (List Char)) (l : List Char) : List (String × String) :=
  let row := fun n => ls[n - 1]?.map fun l => (lineLabel n, String.ofList l)
  (if spot.line = 1 then [] else (row (spot.line - 1)).toList)
    ++ [(lineLabel spot.line, String.ofList l), caret spot.column] ++ (row (spot.line + 1)).toList

/-- Shows a position of a text that has a name. -/
def excerpt (name : String) (text : String) (position : Nat) : String :=
  let cs := text.toList
  let spot := Spot.after (cs.take position)
  let ls := lines cs
  let l := ls.getD (spot.line - 1) []
  name ++ ":" ++ toString spot.line ++ ":" ++ toString spot.column ++ "\n"
    ++ labelled (if longLine < l.length then pieceRows spot l else neighbourRows spot ls l)

end Subgraph.Text
