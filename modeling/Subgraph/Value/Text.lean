import Subgraph.Value.Basic
import Subgraph.Text.Display

/-!
Three texts of a value: `display` writes it as part of a larger text, `plain` is the same
but for texts, which stand for themselves, and `inspect` is the form in messages, which
shortens long texts and lists and goes two levels deep.
-/

namespace Subgraph.Value

mutual
def display : Value → String
  | .null => "None"
  | .bool b => if b then "True" else "False"
  | .int n => toString n
  | .float d => d.text
  | .text s => Text.display s
  | .list xs => "[" ++ ", ".intercalate (displayItems xs) ++ "]"
  | .record es => "\x7b" ++ ", ".intercalate (displayEntries es) ++ "\x7d"
  | .object .entity _ => "<Entity instance>"
  | .object .slots _ => "<Slots instance>"
  | .failure f => f.kind ++ "(" ++ Text.display f.message ++ ")"
  | .missing => "Undefined"
def displayItems : List Value → List String
  | [] => []
  | x :: xs => x.display :: displayItems xs
def displayEntries : List (String × Value) → List String
  | [] => []
  | (n, v) :: r => (Text.display n ++ ": " ++ v.display) :: displayEntries r
end

def plain : Value → String
  | .text s => s
  | .failure f => f.message
  | v => v.display

def longestText : Nat := 240

/-- The two ends of a long text. -/
def shortenText (s : String) : String :=
  let n := s.length
  if longestText < n then
    let front := (longestText - 3) / 2
    let back := longestText - 3 - front
    String.ofList (s.toList.take front) ++ "..." ++ String.ofList (s.toList.drop (n - back))
  else s

def longestList : Nat := 10

/-- The two ends of a long list. -/
def shortenList (xs : List String) : List String :=
  if longestList < xs.length then
    let front := longestList / 2
    xs.take front ++ "..." :: xs.drop (xs.length - (front - 1))
  else xs

mutual
/-- Writes a value with `depth` more levels of lists and records. -/
def inspectTo : Value → Nat → String
  | .list [], _ => "[]"
  | .record [], _ => "\x7b\x7d"
  | .list _, 0 => "[...]"
  | .record _, 0 => "\x7b...\x7d"
  | .list xs, d + 1 => "[" ++ ", ".intercalate (shortenList (inspectItems xs d)) ++ "]"
  | .record es, d + 1 => "\x7b" ++ ", ".intercalate (shortenList (inspectEntries es d)) ++ "\x7d"
  | .text s, _ => shortenText (Text.display s)
  | .int n, _ => shortenText (toString n)
  | .failure f, _ => "<exception " ++ f.kind ++ ">"
  | .object .entity _, _ => "<Entity instance>"
  | .object .slots _, _ => "<Slots instance>"
  | .null, _ => "None"
  | .missing, _ => "Undefined"
  | .bool b, _ => if b then "True" else "False"
  | .float d, _ => d.text
def inspectItems : List Value → Nat → List String
  | [], _ => []
  | x :: xs, d => inspectTo x d :: inspectItems xs d
def inspectEntries : List (String × Value) → Nat → List String
  | [], _ => []
  | (n, v) :: r, d => (shortenText (Text.display n) ++ ": " ++ inspectTo v d) :: inspectEntries r d
end

def inspect (v : Value) : String := inspectTo v 2

end Subgraph.Value
