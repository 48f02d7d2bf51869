import Subgraph.Decimal.Arithmetic
import Subgraph.Decimal.Numeral
import Subgraph.Text.Display
import Subgraph.Text.Lower
import Subgraph.Value.Basic

/-!
Numbers in YAML scalars.

Integers are decimal, binary, octal behind a zero, hexadecimal, or in groups of sixty with
colons between them; numbers with a point may have such groups before it. Underscores between
digits count for nothing.
-/

namespace Subgraph.Yaml.Number

def unsigned : List Char → List Char
  | '+' :: r => r
  | '-' :: r => r
  | r => r

def isNegative (cs : List Char) : Bool := cs.head? == some '-'

def ungrouped (cs : List Char) : List Char := cs.filter (· != '_')

def isBinary (c : Char) : Bool := c == '0' || c == '1'
def isOctal (c : Char) : Bool := '0' ≤ c && c ≤ '7'
def isHex (c : Char) : Bool := (Text.hexValue? c).isSome

def isGroupOf (p : Char → Bool) (c : Char) : Bool := p c || c == '_'

/-- A digit, then digits and underscores. -/
def isGrouped (cs : List Char) : Bool :=
  cs.head?.any Text.isDigit && cs.all (isGroupOf Text.isDigit)

def colonParts (cs : List Char) : List (List Char) := Text.splitAt (· == ':') cs

/-- One or two digits, below sixty. -/
def isSixty : List Char → Bool
  | [a] => Text.isDigit a
  | [a, b] => '0' ≤ a && a ≤ '5' && Text.isDigit b
  | _ => false

def isExponent : List Char → Bool
  | [] => true
  | e :: sign :: r =>
    (e == 'e' || e == 'E') && (sign == '+' || sign == '-') && !r.isEmpty && r.all Text.isDigit
  | _ => false

def isInt (s : String) : Bool :=
  match unsigned s.toList with
  | '0' :: 'b' :: r => !r.isEmpty && r.all (isGroupOf isBinary)
  | '0' :: 'x' :: r => !r.isEmpty && r.all (isGroupOf isHex)
  | '0' :: r => r.all (isGroupOf isOctal)
  | cs =>
    match colonParts cs with
    | first :: groups => isGrouped first && groups.all isSixty
    | [] => false

def infinityWords : List String := [".inf", ".Inf", ".INF"]
def nanWords : List String := [".nan", ".NaN", ".NAN"]

def isFloat (s : String) : Bool :=
  let cs := s.toList
  let body := unsigned cs
  let whole := body.takeWhile (· != '.')
  match body.dropWhile (· != '.') with
  | [] => false
  | _ :: r =>
    let isDigits := isGroupOf Text.isDigit
    let fraction := r.takeWhile isDigits
    let tail := r.dropWhile isDigits
    if whole.isEmpty then
      infinityWords.contains (String.ofList body)
        || (body == cs && (nanWords.contains s || (isGrouped fraction && isExponent tail)))
    else if isGrouped whole then isExponent tail
    else match colonParts whole with
      | first :: groups => isGrouped first && groups.all isSixty && tail.isEmpty
      | [] => false

def noCharacter : Failure := ⟨"IndexError", "string index out of range"⟩

/-- How much of a text that is no integer is shown. -/
def mostShown : Nat := 200

def intFailure (base : Nat) (s : String) : Numeral.Fault → Failure
  | .tooLong n => ⟨"ValueError", Numeral.tooLongMessage n⟩
  | .malformed =>
    ⟨"ValueError", "invalid literal for int() with base " ++ toString base ++ ": "
      ++ String.ofList ((Text.display s).toList.take mostShown)⟩

def intIn (base : Nat) (cs : List Char) : Except Failure Int :=
  let s := String.ofList cs
  (Numeral.int base s).mapError (intFailure base s)

/-- The value of an integer without its sign. A colon multiplies what is before it by sixty. -/
def magnitude (cs : List Char) : Except Failure Int :=
  match cs with
  | [] => .error noCharacter
  | ['0'] => .ok 0
  | '0' :: 'b' :: r => intIn 2 r
  | '0' :: 'x' :: r => intIn 16 r
  | '0' :: r => intIn 8 ('0' :: r)
  | cs => (colonParts cs).foldlM (fun n part => do return n * 60 + (← intIn 10 part)) 0

def int (s : String) : Except Failure Int := do
  let cs := ungrouped s.toList
  if cs.isEmpty then throw noCharacter
  let n ← magnitude (unsigned cs)
  return if isNegative cs then -n else n

def doubleOf (cs : List Char) : Except Failure Double :=
  let s := String.ofList cs
  match Numeral.double? s with
  | some d => .ok d
  | none => .error ⟨"ValueError", "could not convert string to float: " ++ Text.display s⟩

/-- The sum of groups, the last of which counts once, and each sixty times as much as the one
behind it. -/
def sixties (sum : Double) (unit : Nat) : List Double → Except Failure Double
  | [] => .ok sum
  | d :: ds =>
    match Double.ofInt? unit with
    | some u => sixties (sum.add (d.mul u)) (unit * 60) ds
    | none => .error ⟨"OverflowError", Numeral.tooLargeMessage⟩

def floatMagnitude (cs : List Char) : Except Failure Double :=
  if cs == ".inf".toList then .ok (.infinite false)
  else if cs == ".nan".toList then .ok .nan
  else if cs.contains ':' then do
    let ds ← (colonParts cs).mapM doubleOf
    sixties (.zero false) 1 ds.reverse
  else doubleOf cs

def float (s : String) : Except Failure Double := do
  let cs := (Text.lower (String.ofList (ungrouped s.toList))).toList
  if cs.isEmpty then throw noCharacter
  let d ← floatMagnitude (unsigned cs)
  return if isNegative cs then d.neg else d

end Subgraph.Yaml.Number
