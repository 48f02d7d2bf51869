import Subgraph.Decimal.Numeral
import Subgraph.Text.Lower

/-!
Suggestions for a name that is not known: known names that few edits away, nearest first.

An edit inserts, drops or replaces a character or swaps two neighbours; a change of case
alone counts as one edit. Names at the same distance are in natural order, where runs of
digits compare as numbers.

Looking for suggestions can fail: a run of digits may be too long for a number, and a name that
grows when its case is dropped may not fit the table of distances, which has a column for each
character of the name as it is given.
-/

namespace Subgraph.Suggestion
open Text

inductive Fault where
  | tooLong (digits : Nat)
  | outsideTable
  deriving DecidableEq, Repr

def Fault.kind : Fault → String
  | .tooLong _ => "ValueError"
  | .outsideTable => "IndexError"

def Fault.message : Fault → String
  | .tooLong n => Numeral.tooLongMessage n
  | .outsideTable => "list assignment index out of range"

abbrev Attempt := Except Fault

/-- What cannot fail is an attempt that does not. -/
instance {α : Type} : Coe (List α) (List (Attempt α)) := ⟨fun xs => xs.map .ok⟩

/-- The cells of a row of the distance table, from its second one on. `left` is the cell
before, `up` the row above from that column on, `above` the row two above from two columns
before on. -/
def rowCells (c : Char) (before : Option Char) :
    Option Char → List Char → Nat → List Nat → List Nat → List Nat
  | _, [], _, _, _ => []
  | last, d :: ds, left, up, above =>
    let diagonal := up.headD 0
    let cell := min (min ((up.drop 1).headD 0 + 1) (left + 1)) (diagonal + if c = d then 0 else 1)
    let swaps := before.isSome && last.isSome && before == some d && last == some c
    let cell := if swaps then min cell (above.headD 0 + 1) else cell
    let nextAbove := if last.isSome then above.drop 1 else above
    cell :: rowCells c before (some d) ds cell (up.drop 1) nextAbove

/-- The last row of the table. -/
def lastRow (ds : List Char) : Nat → Option Char → List Char → List Nat → List Nat → List Nat
  | _, _, [], row, _ => row
  | i, before, c :: cs, row, above =>
    lastRow ds (i + 1) (some c) cs ((i + 1) :: rowCells c before none ds (i + 1) row above) row

/-- How many edits lie between two texts. -/
def edits (a b : List Char) : Nat :=
  (lastRow b 0 none a (List.range (b.length + 1)) []).getLastD 0

def distance (a b : String) : Nat :=
  if a = b then 0
  else if lower a = lower b then 1
  else edits (lower b).toList (lower a).toList

def threshold (s : String) : Nat := s.length * 2 / 5 + 1

/-- Whether the table for a name has a column for each character that is to be compared. -/
def fitsTable (name option : String) : Bool :=
  let a := (lower option).length
  let b := (lower name).length
  name == option || lower name == lower option || threshold name < max a b - min a b
    || min a b ≤ name.length

/-- Texts and runs of digits in turn; a text comes first and may be empty. -/
def naturalParts : Nat → List Char → List (List Char × List Char)
  | 0, _ => []
  | fuel + 1, cs =>
    let rest := cs.dropWhile (!isDigit ·)
    let pair := (cs.takeWhile (!isDigit ·), rest.takeWhile isDigit)
    match rest with
    | [] => [pair]
    | _ => pair :: naturalParts fuel (rest.dropWhile isDigit)

def compareChars (a b : List Char) : Ordering := compare (String.ofList a) (String.ofList b)

def compareParts : List (List Char × List Char) → List (List Char × List Char) → Ordering
  | [], [] => .eq
  | [], _ => .lt
  | _, [] => .gt
  | (s, m) :: r, (t, n) :: r' =>
    match compareChars s t with
    | .eq =>
      match compare (Nat.ofDigitChars 10 m 0) (Nat.ofDigitChars 10 n 0) with
      | .eq =>
        match compareChars m n with
        | .eq => compareParts r r'
        | o => o
      | o => o
    | o => o

def natural (a b : String) : Ordering :=
  compareParts (naturalParts (a.length + 1) a.toList) (naturalParts (b.length + 1) b.toList)

/-- The length of a run of digits in a text that is too long for a number. -/
def overlong? (s : String) : Option Nat :=
  (naturalParts (s.length + 1) s.toList).findSome? fun p =>
    if Numeral.mostDigits < p.2.length then some p.2.length else none

/-- The names near to a given one, nearest first. -/
def near (name : String) (options : List String) : Attempt (List String) := do
  let options := options.eraseDups
  if !options.all (fitsTable name) then throw .outsideTable
  let limit := threshold name
  let close := (options.map fun o => (distance name o, o)).filter (·.1 ≤ limit)
  if let some n := close.findSome? (overlong? ·.2) then throw (.tooLong n)
  return (close.mergeSort fun a b =>
    a.1 < b.1 || (a.1 == b.1 && natural a.2 b.2 != .gt)).map (·.2)

def quoted (s : String) : String := "'" ++ s ++ "'"

/-- Alternatives with commas between them and "or" before the last. -/
def alternatives : List String → String
  | [] => ""
  | [a] => a
  | [a, b] => a ++ " or " ++ b
  | as => ", ".intercalate as.dropLast ++ ", or " ++ as.getLastD ""

def most : Nat := 5

/-- The end of a message: at most five suggestions, after a phrase that says what they are. -/
def question (phrase : String) (options : List String) : String :=
  if options.isEmpty then ""
  else " Did you mean " ++ (if phrase = "" then "" else phrase ++ " ")
    ++ alternatives ((options.take most).map quoted) ++ "?"

def didYouMean (name : String) (options : List String) : Attempt String :=
  question "" <$> near name options

/-- The hint at values of an enum. -/
def enumHint (text : String) (values : List String) : Attempt String :=
  question "the enum value" <$> near text values

end Subgraph.Suggestion
