import Subgraph.Console.Markup

/-!
What a program writes to its console: marked texts, messages of several kinds, and titled rules
as wide as the console.
-/

namespace Subgraph.Console

abbrev Shown := Except MarkupError String

def print (message : String) : Shown := do
  let m ← Marked.read message
  Marked.checkStyles m.shownSpans
  return String.ofList (expandTabs m.chars) ++ "\n"

def marked (style message : String) : String :=
  "[" ++ style ++ "]" ++ message ++ "[/" ++ style ++ "]"

def defaultStyle : String := "bold cyan"
def ruleStyle : String := "bold blue"
def keyStyle : String := "dim"

def colored (message style : String) : Shown := print (marked style message)

def success (message : String) : Shown := print (marked "green" "✓" ++ " " ++ message)

def hint (message : String) : Shown := colored message "dim"

def keyValue (key value style : String) : Shown :=
  print ("[" ++ style ++ "]" ++ key ++ ":[/" ++ style ++ "] " ++ value)

def listItem (text mark style : String) : Shown :=
  if style = "" then print (mark ++ " " ++ text) else colored (mark ++ " " ++ text) style

def width : Nat := 80

/-- A title that leaves room for the rule at both sides. -/
def shortened (cs : List Char) : List Char :=
  if width - 4 < Text.columns cs then Text.fitted (width - 5) cs ++ ['…'] else cs

/-- A title in the middle of a rule. -/
def ruleLine (title : List Char) : List Char :=
  let n := Text.columns title
  let left := (width - n) / 2 - 1
  let right := width - left - n
  let line := List.replicate left '─' ++ ' ' :: title ++ ' ' :: List.replicate right '─'
  if Text.columns line = width then line else Text.fitted width line

def rule (title style : String) : Shown := do
  let m ← Marked.read ("[" ++ style ++ "]" ++ title)
  let m := { m with chars := m.chars.map fun c => if c = '\n' then ' ' else c }
  let cs := expandTabs m.chars
  let short := shortened cs
  let isLeft := fun (s : Span) =>
    cs.length ≤ short.length || (expandTabs (m.chars.take s.start)).length < short.length
  Marked.checkStyles (m.shownSpans.filter isLeft)
  return String.ofList (ruleLine short) ++ "\n"

end Subgraph.Console
