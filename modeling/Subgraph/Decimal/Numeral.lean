import Subgraph.Decimal.Binary
import Subgraph.Text.Blank
import Subgraph.Text.Chars
import Subgraph.Text.Lines

/-!
Reading numbers that are written with decimal digits, and numbers in texts that people write: blanks
around them, digits of every script, and single underscores between digits.
-/

namespace Subgraph

/-- The value of a run of decimal digits, which a minus sign may precede. -/
def intOfText (s : String) : Int :=
  match s.toList with
  | '-' :: r => -(Nat.ofDigitChars 10 r 0 : Int)
  | cs => (Nat.ofDigitChars 10 cs 0 : Int)

/-- The value of decimal digits with a fraction and an exponent. -/
def doubleOfText (s : String) : Double :=
  let cs := s.toList
  let negative := cs.head? == some '-'
  let cs := if negative then cs.drop 1 else cs
  let isExponent := fun c : Char => c == 'e' || c == 'E'
  let body := cs.takeWhile (!isExponent ·)
  let exponent := (cs.dropWhile (!isExponent ·)).drop 1
  let exponent := if exponent.head? == some '+' then exponent.drop 1 else exponent
  let whole := body.takeWhile (· != '.')
  let fraction := (body.dropWhile (· != '.')).drop 1
  Double.ofDecimal negative (Nat.ofDigitChars 10 (whole ++ fraction) 0)
    (intOfText (String.ofList exponent) - fraction.length)

namespace Numeral

inductive Fault where
  | malformed
  | tooLong (digits : Nat)
  deriving DecidableEq, Repr

/-- How many decimal digits an integer may have. -/
def mostDigits : Nat := 4300

def tooLongMessage (digits : Nat) : String :=
  "Exceeds the limit (" ++ toString mostDigits
    ++ " digits) for integer string conversion: value has "
    ++ toString digits ++ " digits; use sys.set_int_max_str_digits() to increase the limit"

def tooLargeMessage : String := "int too large to convert to float"

def isBlank (c : Char) : Bool := c == ' ' || ('\t' ≤ c && c ≤ '\r')

/-- A text with its digits and blanks in ASCII. It is cut at the first other character. -/
def plain : List Char → List Char
  | [] => []
  | c :: r =>
    if c.toNat < 0x7f then c :: plain r
    else if Text.isWhite c then ' ' :: plain r
    else match Text.decimalValue? c with
      | some d => Char.ofNat (d + 48) :: plain r
      | none => ['?']

def trimmed (cs : List Char) : List Char :=
  ((cs.dropWhile isBlank).reverse.dropWhile isBlank).reverse

/-- A sign, if one is there, and what follows it. -/
def signed : List Char → Bool × List Char
  | '+' :: r => (false, r)
  | '-' :: r => (true, r)
  | r => (false, r)

/-- Groups of digits without the underscores between them. -/
def ungrouped? (isDigit : Char → Bool) (cs : List Char) : Option (List Char) :=
  let groups := Text.splitAt (· == '_') cs
  if groups.all fun g => !g.isEmpty && g.all isDigit then some groups.flatten else none

/-- The letter that tells a base other than ten behind a zero. -/
def baseMark : Nat → Option Char
  | 2 => some 'b'
  | 8 => some 'o'
  | 16 => some 'x'
  | _ => none

/-- A number without the zero and the letter that tell its base. -/
def withoutMark (base : Nat) (cs : List Char) : List Char :=
  match cs with
  | '0' :: m :: r =>
    if some m.toLower = baseMark base then (if r.head? = some '_' then r.drop 1 else r) else cs
  | _ => cs

def isDigitOf (base : Nat) (c : Char) : Bool := (Text.hexValue? c).any fun d => decide (d < base)

def valueOf (base : Nat) (ds : List Char) : Nat :=
  ds.foldl (fun n c => n * base + (Text.hexValue? c).getD 0) 0

/-- The integer that a text is. -/
def int (base : Nat) (s : String) : Except Fault Int :=
  let (negative, r) := signed (trimmed (plain s.toList))
  let r := withoutMark base r
  let inRun := fun c => isDigitOf base c || c == '_'
  match ungrouped? (isDigitOf base) (r.takeWhile inRun) with
  | none => .error .malformed
  | some ds =>
    if base = 10 ∧ mostDigits < ds.length then .error (.tooLong ds.length)
    else if !(r.dropWhile inRun).isEmpty then .error .malformed
    else
      let n : Int := valueOf base ds
      .ok (if negative then -n else n)

/-- A text without its underscores, which have to stand between digits. -/
def withoutUnderscores? (before : Option Char) : List Char → Option (List Char)
  | [] => some []
  | c :: r =>
    if c = '_' then
      if before.any Text.isDigit && r.head?.any Text.isDigit then withoutUnderscores? (some c) r
      else none
    else (withoutUnderscores? (some c) r).map (c :: ·)

def infinityWords : List String := ["inf", "infinity"]

/-- Whether a text is digits with a point or without, and an exponent or none. -/
def isDecimal (cs : List Char) : Bool :=
  let whole := cs.takeWhile Text.isDigit
  let r := cs.dropWhile Text.isDigit
  let (fraction, r) := match r with
    | '.' :: r => (r.takeWhile Text.isDigit, r.dropWhile Text.isDigit)
    | r => ([], r)
  !(whole.isEmpty && fraction.isEmpty) && match r with
    | [] => true
    | e :: r =>
      let ds := (signed r).2
      (e == 'e' || e == 'E') && !ds.isEmpty && ds.all Text.isDigit

/-- The number that a text is. -/
def double? (s : String) : Option Double := do
  let cs ← withoutUnderscores? none (trimmed (plain s.toList))
  let (negative, r) := signed cs
  let word := String.ofList (r.map Char.toLower)
  if infinityWords.contains word then return .infinite negative
  else if word = "nan" then return .nan
  else if isDecimal r then return doubleOfText (String.ofList (if negative then '-' :: r else r))
  else none

end Numeral
end Subgraph
