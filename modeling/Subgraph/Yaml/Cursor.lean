import Subgraph.Text.Chars
import Subgraph.Text.Lines
import Subgraph.Yaml.Fault

/-!
A place in a YAML text: what is left of it, and where that stands. A text whose characters are
all permitted has no null character, which therefore stands for its end.

A fault is found at a place, and comes with how far the text was looked at for it.
-/

namespace Subgraph.Yaml

/-- Tabs, line ends and everything with a visible form, but no other controls. -/
def isPermitted (c : Char) : Bool :=
  c == '\t' || c == '\n' || (0x20 ≤ c.toNat && c.toNat ≤ 0x7e) || c.toNat == 0x85
    || (0xa0 ≤ c.toNat && c.toNat ≤ 0xfffd) || 0x10000 ≤ c.toNat

def endMark : Char := '\x00'

def byteOrderMark : Char := '\uFEFF'

def isBreak (c : Char) : Bool := c == '\n' || c == '\u0085' || c == '\u2028' || c == '\u2029'

def isBreakOrEnd (c : Char) : Bool := isBreak c || c == endMark

/-- What can follow an indicator that stands alone. -/
def isGap (c : Char) : Bool := isBreakOrEnd c || c == ' ' || c == '\t'

def isWordChar (c : Char) : Bool := c.isAlphanum || c == '-' || c == '_'

structure Cursor where
  rest : List Char
  index : Nat
  line : Nat
  column : Nat
  deriving Inhabited

namespace Cursor

def ofList (cs : List Char) : Cursor := ⟨cs, 0, 0, 0⟩

def peek (c : Cursor) (n : Nat) : Char := c.rest.getD n endMark

def isAtEnd (c : Cursor) : Bool := c.rest.isEmpty

def next (c : Cursor) : Cursor :=
  match c.rest with
  | [] => c
  | ch :: r =>
    if isBreak ch then ⟨r, c.index + 1, c.line + 1, 0⟩
    else ⟨r, c.index + 1, c.line, if ch = byteOrderMark then c.column else c.column + 1⟩

def advance : Nat → Cursor → Cursor
  | 0, c => c
  | n + 1, c => advance n c.next

/-- The characters of a class, and the place behind them. -/
def span (p : Char → Bool) (c : Cursor) : List Char × Cursor :=
  let cs := c.rest.takeWhile p
  (cs, c.advance cs.length)

def skip (p : Char → Bool) (c : Cursor) : Cursor := (c.span p).2

/-- A line end: separators of lines and of paragraphs stand for themselves. -/
def lineBreak? (c : Cursor) : Option (Char × Cursor) :=
  let ch := c.peek 0
  if !isBreak ch then none
  else some (if ch == '\u0085' then '\n' else ch, c.next)

/-- Whether a document marker stands here. -/
def isMarker (c : Cursor) : Bool :=
  let cs := c.rest.take 3
  (cs == ['-', '-', '-'] || cs == ['.', '.', '.']) && isGap (c.peek 3)

/-- What scanning gives: a result, or what is wrong and up to which index that shows. -/
abbrev Scan (α : Type) := Except (Fault × Nat) α

/-- A fault that shows a number of characters ahead. -/
def fail {α : Type} (c : Cursor) (f : Fault) (ahead : Nat) : Scan α := .error (f, c.index + ahead)

/-- Goes on only if a condition holds, which the character here decides. -/
def require (c : Cursor) (b : Bool) (f : Fault) : Scan Unit := if b then .ok () else c.fail f 0

/-- A bound on the number of steps that can be taken. -/
def fuel (c : Cursor) : Nat := c.rest.length + 1

theorem length_next (c : Cursor) : c.next.rest.length = c.rest.length - 1 := by
  unfold next
  split
  · simp_all
  · split <;> simp_all

theorem length_advance (n : Nat) (c : Cursor) :
    (c.advance n).rest.length = c.rest.length - n := by
  induction n generalizing c with
  | zero => simp [advance]
  | succ n ih => simp only [advance, ih, length_next]; omega

end Cursor
end Subgraph.Yaml
