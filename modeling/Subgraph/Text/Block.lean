import Subgraph.Text.Lines

/-!
Block strings: text between triple quotes, whose common indentation belongs to the layout.

`dedent` takes the indentation and the blank ends away when a block is read, `layoutBlock`
puts a text between triple quotes, and `fitsBlock` says of which texts reading the layout
gives the text again.
-/

namespace Subgraph.Text

def leadingBlanks (line : List Char) : Nat := (line.takeWhile isBlankChar).length

def isBlankLine (line : List Char) : Bool := line.all isBlankChar

/-- The least indentation among the lines that are not blank, the first line apart. -/
def commonIndent (ls : List (List Char)) : Option Nat :=
  (((ls.drop 1).filter (!isBlankLine ·)).map leadingBlanks).min?

def dropBlankEnds (ls : List (List Char)) : List (List Char) :=
  ((ls.dropWhile isBlankLine).reverse.dropWhile isBlankLine).reverse

def dedent (ls : List (List Char)) : List (List Char) :=
  match ls with
  | [] => []
  | first :: rest => dropBlankEnds (first :: rest.map (·.drop ((commonIndent ls).getD 0)))

/-- No control characters but tab and line feed, no blank line at either end, and a line
without indentation if there are several. -/
def fitsBlock (s : String) : Bool :=
  let cs := s.toList
  let ls := splitAt (· == '\n') cs
  let starts := ls.filter (!isBlankLine ·)
  cs.isEmpty ||
    (cs.all (fun c => 0xf < c.toNat || c == '\n' || c == '\t') &&
      !(ls.head?.any isBlankLine && 1 < ls.length) && !(ls.getLast?.any isBlankLine) &&
      (ls.length == 1 || starts.any (leadingBlanks · == 0)))

def escapeTripleQuotes : List Char → List Char
  | '"' :: '"' :: '"' :: r => '\\' :: '"' :: '"' :: '"' :: escapeTripleQuotes r
  | c :: r => c :: escapeTripleQuotes r
  | [] => []

theorem escapeTripleQuotes_nil : escapeTripleQuotes [] = [] := rfl

theorem escapeTripleQuotes_triple (r : List Char) :
    escapeTripleQuotes ('"' :: '"' :: '"' :: r)
      = '\\' :: '"' :: '"' :: '"' :: escapeTripleQuotes r := by
  rw [escapeTripleQuotes]

theorem escapeTripleQuotes_kept {c : Char} {r : List Char}
    (h : ∀ t, c = '"' → r = '"' :: '"' :: t → False) :
    escapeTripleQuotes (c :: r) = c :: escapeTripleQuotes r := by
  rw [escapeTripleQuotes]
  exact h

/-- A text is read from its front: three quotes at once, any other character by itself. -/
theorem escapeTripleQuotes_cases {P : List Char → Prop}
    (triple : ∀ r, P r → P ('"' :: '"' :: '"' :: r))
    (kept : ∀ c r, (∀ t, c = '"' → r = '"' :: '"' :: t → False) → P r → P (c :: r))
    (empty : P []) (cs : List Char) : P cs := by
  induction cs using escapeTripleQuotes.induct with
  | case1 r ih => exact triple r ih
  | case2 c r h ih => exact kept c r h ih
  | case3 => exact empty

def endsWith (cs suffix : List Char) : Bool := suffix.isSuffixOf cs

/-- A text goes on lines of its own when it has several or is long, and when its end would
run into the closing quotes. -/
def layoutBlock (s : String) : String :=
  let cs := s.toList
  let escaped := escapeTripleQuotes cs
  let ls := lines escaped
  let single := ls.length ≤ 1
  let leading := !single && (ls.drop 1).all fun l => l.isEmpty || l.head?.any isBlankChar
  let tripleEnd := endsWith escaped ['\\', '"', '"', '"']
  let trailing := (endsWith cs ['"'] && !tripleEnd) || endsWith cs ['\\']
  let apart := !single || 70 < cs.length || trailing || leading || tripleEnd
  let keepFirst := single && (cs.isEmpty || cs.head?.any isBlankChar)
  let before := if (apart && !keepFirst) || leading then "\n" else ""
  let after := if apart || trailing then "\n" else ""
  "\"\"\"" ++ before ++ String.ofList escaped ++ after ++ "\"\"\""

end Subgraph.Text
