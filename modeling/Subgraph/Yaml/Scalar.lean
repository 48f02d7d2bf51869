import Subgraph.Text.Points
import Subgraph.Yaml.Cursor

/-!
The texts of YAML scalars: quoted, plain and in blocks.

Line ends inside quoted and plain scalars are folded: one stands for a space, and of several
the first is left out. A block keeps its lines, or folds those that are not indented further.
-/

namespace Subgraph.Yaml
open Cursor (Scan)
open Text (Points)

namespace Quoted

/-- The characters that a single one stands for behind a backslash. -/
def escapes : List (Char × Char) :=
  [('0', '\x00'), ('a', '\x07'), ('b', '\x08'), ('t', '\t'), ('\t', '\t'), ('n', '\n'),
   ('v', '\x0b'), ('f', '\x0c'), ('r', '\r'), ('e', '\x1b'), (' ', ' '), ('"', '"'),
   ('\\', '\\'), ('/', '/'), ('N', '\u0085'), ('_', '\u00a0'), ('L', '\u2028'), ('P', '\u2029')]

/-- How many digits of a code point follow. -/
def codeWidths : List (Char × Nat) := [('x', 2), ('u', 4), ('U', 8)]

def unclosed : Fault := .scanning "a quoted scalar"

def badEscape : Fault := .scanning "a double-quoted scalar"

/-- The line ends from here on, with the blanks between them left out. -/
def breaks : Nat → Cursor → Scan (List Char × Cursor)
  | 0, c => c.fail unclosed 0
  | fuel + 1, c =>
    if c.isMarker then c.fail unclosed 3
    else
      let c := c.skip Text.isBlankChar
      match c.lineBreak? with
      | some (b, c) => do
        let (bs, c) ← breaks fuel c
        return (b :: bs, c)
      | none => .ok ([], c)

/-- Blanks, or folded line ends. -/
def gap (c : Cursor) : Scan (List Char × Cursor) :=
  let (blanks, c) := c.span Text.isBlankChar
  if c.isAtEnd then c.fail unclosed 0
  else match c.lineBreak? with
    | none => .ok (blanks, c)
    | some (b, c) => do
      let (bs, c) ← breaks c.fuel c
      return ((if b != '\n' then [b] else if bs.isEmpty then [' '] else []) ++ bs, c)

/-- A number in a given count of hexadecimal digits, and the place behind them. -/
def readCode (width : Nat) (c : Cursor) : Scan (Nat × Cursor) :=
  let digits := (c.rest.take width).takeWhile fun ch => (Text.hexValue? ch).isSome
  match Text.hexRun? digits with
  | some code =>
    if digits.length < width then c.fail badEscape digits.length
    else if 0x110000 ≤ code then c.fail (.codePoint code) (width - 1)
    else .ok (code, c.advance width)
  | none => c.fail badEscape 0

/-- What stands behind a backslash. -/
def escape (c : Cursor) : Scan (Points × Cursor) :=
  match escapes.lookup (c.peek 0), codeWidths.lookup (c.peek 0) with
  | some ch, _ => .ok ([ch.toNat], c.next)
  | none, some width => do
    let (code, c) ← readCode width c.next
    return ([code], c)
  | none, none =>
    match c.lineBreak? with
    | some (_, c) => do
      let (bs, c) ← breaks c.fuel c
      return (bs.map Char.toNat, c)
    | none => c.fail badEscape 0

/-- The text up to the closing quote. -/
def read (double : Bool) : Nat → Cursor → Scan (Points × Cursor)
  | 0, c => c.fail unclosed 0
  | fuel + 1, c => do
    let ch := c.peek 0
    let part ←
      if double && ch == '"' then pure none
      else if !double && ch == '\'' then
        pure (if c.peek 1 == '\'' then some (['\''.toNat], c.advance 2) else none)
      else if double && ch == '\\' then some <$> escape c.next
      else if isGap ch then do
        let (cs, c) ← gap c
        pure (some (cs.map Char.toNat, c))
      else pure (some ([ch.toNat], c.next))
    match part with
    | none => return ([], c.next)
    | some (cs, c) =>
      let (ds, c) ← read double fuel c
      return (cs ++ ds, c)

end Quoted

namespace Plain

/-- Whether a plain scalar ends before the character here. -/
def ends (flow : Bool) (c : Cursor) : Bool :=
  let ch := c.peek 0
  let after := c.peek 1
  isGap ch
    || (ch == ':' && (isGap after || (flow && [',', '[', ']', '\x7b', '\x7d'].contains after)))
    || (flow && [',', '?', '[', ']', '\x7b', '\x7d'].contains ch)

def word (flow : Bool) : Nat → Cursor → List Char × Cursor
  | 0, c => ([], c)
  | fuel + 1, c =>
    if ends flow c then ([], c)
    else
      let (cs, d) := word flow fuel c.next
      (c.peek 0 :: cs, d)

/-- What stands between two words; without text the scalar ends. -/
structure Gap where
  text : List Char
  broken : Bool
  after : Cursor

/-- The line ends from here on; none if a document marker follows one of them. -/
def breaks : Nat → Cursor → Option (List Char) × Cursor
  | 0, c => (none, c)
  | fuel + 1, c =>
    if c.isMarker then (none, c)
    else
      let c := c.skip (· == ' ')
      match c.lineBreak? with
      | some (b, c) =>
        let (bs, c) := breaks fuel c
        (bs.map (b :: ·), c)
      | none => (some [], c)

def gap (c : Cursor) : Gap :=
  let (blanks, c) := c.span (· == ' ')
  match c.lineBreak? with
  | none => ⟨blanks, false, c⟩
  | some (b, c) =>
    match breaks c.fuel c with
    | (none, c) => ⟨[], true, c⟩
    | (some bs, c) =>
      ⟨(if b != '\n' then [b] else if bs.isEmpty then [' '] else []) ++ bs, true, c⟩

/-- The text of a plain scalar, whether a line end follows it, and the place behind. -/
def read (flow : Bool) (indent : Int) : Nat → Cursor → List Char × Bool × Cursor
  | 0, c => ([], false, c)
  | fuel + 1, c =>
    let (cs, c) := word flow c.fuel c
    let g := gap c
    if g.text.isEmpty || g.after.peek 0 == '#' || ends flow g.after
        || (!flow && (g.after.column : Int) < indent) then (cs, g.broken, g.after)
    else
      let (ds, r) := read flow indent fuel g.after
      (cs ++ g.text ++ ds, r)

/-- Whether a plain scalar can start here. -/
def starts (flow : Bool) (c : Cursor) : Bool :=
  let ch := c.peek 0
  let indicators := "-?:,[]\x7b\x7d#&*!|>'\"%@".toList ++ [Char.ofNat 0x60]
  (!isGap ch && !indicators.contains ch)
    || (!isGap (c.peek 1) && (ch == '-' || (!flow && (ch == '?' || ch == ':'))))

end Plain

namespace Block

/-- What becomes of the line ends at the end: kept, dropped, or all but the first dropped. -/
inductive Chomping where
  | clip
  | strip
  | keep
  deriving DecidableEq, Repr

def chomping? (c : Char) : Option Chomping :=
  if c = '+' then some .keep else if c = '-' then some .strip else none

def increment? (c : Char) : Option Nat :=
  if Text.isDigit c then some (c.toNat - 48) else none

def badHeader : Fault := .scanning "a block scalar"

/-- The indicators behind the opening one, in any order. -/
def header (c : Cursor) : Scan (Chomping × Option Nat × Cursor) := do
  let (chomping, increment, c) :=
    match chomping? (c.peek 0), increment? (c.peek 0) with
    | some h, _ =>
      match increment? (c.peek 1) with
      | some n => (h, some n, c.advance 2)
      | none => (h, none, c.next)
    | none, some n =>
      match chomping? (c.peek 1) with
      | some h => (h, some n, c.advance 2)
      | none => (.clip, some n, c.next)
    | none, none => (.clip, none, c)
  c.require (increment != some 0 && (isBreakOrEnd (c.peek 0) || c.peek 0 == ' ')) badHeader
  return (chomping, increment, c)

/-- The rest of a line with nothing but a comment. -/
def restOfLine (fault : Fault) (c : Cursor) : Scan Cursor :=
  let c := c.skip (· == ' ')
  let c := if c.peek 0 == '#' then c.skip (!isBreakOrEnd ·) else c
  if isBreakOrEnd (c.peek 0) then .ok ((c.lineBreak?.map (·.2)).getD c) else c.fail fault 0

/-- The line ends before the first line, and the greatest column that its blanks reach. -/
def leading : Nat → Nat → Cursor → List Char × Nat × Cursor
  | 0, reach, c => ([], reach, c)
  | fuel + 1, reach, c =>
    match c.lineBreak? with
    | some (b, c) =>
      let (bs, r) := leading fuel reach c
      (b :: bs, r)
    | none =>
      if c.peek 0 == ' ' then leading fuel (max reach c.next.column) c.next else ([], reach, c)

/-- Blanks up to a column. -/
def indentation (indent : Nat) (c : Cursor) : Cursor :=
  c.advance (min (indent - c.column) (c.span (· == ' ')).1.length)

/-- The line ends from here on, up to the indentation of the next line. -/
def breaks (indent : Nat) : Nat → Cursor → List Char × Cursor
  | 0, c => ([], c)
  | fuel + 1, c =>
    let c := indentation indent c
    match c.lineBreak? with
    | some (b, c) =>
      let (bs, c) := breaks indent fuel c
      (b :: bs, c)
    | none => ([], c)

/-- Whether a line of the block starts here. -/
def isInside (indent : Nat) (c : Cursor) : Bool := c.column == indent && !c.isAtEnd

/-- The lines of a block: its text without the line ends at the end, the line end of the last
line, and those behind it. -/
def lines (folded : Bool) (indent : Nat) : Nat → Cursor →
    List Char × Option Char × List Char × Cursor
  | 0, c => ([], none, [], c)
  | fuel + 1, c =>
    let opensText := !Text.isBlankChar (c.peek 0)
    let (cs, c) := c.span (!isBreakOrEnd ·)
    let (b, c) := match c.lineBreak? with
      | some (b, c) => (some b, c)
      | none => (none, c)
    let (bs, c) := breaks indent c.fuel c
    if isInside indent c then
      let between :=
        if folded && b == some '\n' && opensText && !Text.isBlankChar (c.peek 0) then
          if bs.isEmpty then [' '] else []
        else b.toList
      let (ds, r) := lines folded indent fuel c
      (cs ++ between ++ bs ++ ds, r)
    else (cs, b, bs, c)

/-- The text of a block behind its opening indicator. -/
def read (folded : Bool) (parentIndent : Int) (c : Cursor) :
    Scan (List Char × Cursor) := do
  let (chomping, increment, c) ← header c
  let c ← restOfLine badHeader c
  let least := max (parentIndent + 1).toNat 1
  let (first, indent, c) :=
    match increment with
    | none =>
      let (bs, reach, c) := leading c.fuel 0 c
      (bs, max least reach, c)
    | some n =>
      let indent := least + n - 1
      let (bs, c) := breaks indent c.fuel c
      (bs, indent, c)
  let (cs, b, bs, c) :=
    if isInside indent c then
      let (cs, r) := lines folded indent c.fuel c
      (first ++ cs, r)
    else ([], none, first, c)
  return match chomping with
    | .strip => (cs, c)
    | .clip => (cs ++ b.toList, c)
    | .keep => (cs ++ b.toList ++ bs, c)

end Block
end Subgraph.Yaml
