/-!
Texts as lists of lines. A line ends at a line feed, a carriage return or both.
-/

namespace Subgraph.Text

variable {α : Type}

/-- Splits at every character of a class, keeping empty pieces. -/
def splitAt (p : α → Bool) : List α → List (List α)
  | [] => [[]]
  | c :: r =>
    if p c then [] :: splitAt p r
    else match splitAt p r with
      | [] => [[c]]
      | l :: ls => (c :: l) :: ls

theorem splitAt_ne_nil (p : α → Bool) (cs : List α) : splitAt p cs ≠ [] := by
  cases cs with
  | nil => simp [splitAt]
  | cons c r =>
    simp only [splitAt]
    split
    · simp
    · split <;> simp

/-- Carriage returns, alone or before a line feed, become line feeds. -/
def normalizeNewlines : List Char → List Char
  | '\r' :: '\n' :: r => '\n' :: normalizeNewlines r
  | '\r' :: r => '\n' :: normalizeNewlines r
  | c :: r => c :: normalizeNewlines r
  | [] => []

/-- The lines of a text. -/
def lines (cs : List Char) : List (List Char) := splitAt (· == '\n') (normalizeNewlines cs)

/-- Puts `indent` after every line feed. -/
def indentAfterNewlines (indent s : String) : String :=
  String.ofList (s.toList.flatMap fun c => if c = '\n' then '\n' :: indent.toList else [c])

def splitLines (s : String) : List String :=
  (splitAt (· == '\n') s.toList).map String.ofList

def joinLines (ls : List String) : String := "\n".intercalate ls

/-- What follows the last place of a separator, if it has one. -/
def afterLast? [BEq α] (separator : List α) : List α → Option (List α)
  | [] => none
  | c :: r => (afterLast? separator r).or
      (if separator.isPrefixOf (c :: r) then some ((c :: r).drop separator.length) else none)

/-- A text without the line feed at its end, if it has one there. -/
def withoutFinalBreak (s : String) : String :=
  if s.endsWith "\n" then String.ofList s.toList.dropLast else s

def isBlankChar (c : Char) : Bool := c == ' ' || c == '\t'

end Subgraph.Text
