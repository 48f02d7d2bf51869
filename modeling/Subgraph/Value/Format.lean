import Subgraph.Decimal.Numeral
import Subgraph.Decimal.Places
import Subgraph.Text.Chars
import Subgraph.Value.Text

/-!
Writing values by a format: a fill and an alignment, a sign, a width, separators of thousands, a
precision and a type, all of which can be left out.

Numbers are figures: a sign, a mark of the base, digits, and the rest behind them. Zeros that fill a
figure up stand among its digits and are separated like them.
-/

namespace Subgraph

inductive FormatFault where
  | malformed (format kind : String)
  | unknownType (type : Char) (kind : String)
  | unsupported (kind : String)
  | separatorWith (separator type : Char)
  | bothSeparators
  | noPrecision
  | longNumber
  | greatPrecision
  | precision
  | negativeZero (kind : String)
  | signWithCharacter
  | alternateWithCharacter
  | noCharacter
  | tooLarge
  | spaceWithText
  | signWithText
  | alternateWithText
  | innerWithText
  deriving DecidableEq, Repr

namespace FormatFault

/-- A character in a message, or its code if it does not show. -/
def shown (c : Char) : String :=
  if 32 < c.toNat && c.toNat < 128 then c.toString
  else "\\x" ++ String.ofList (Nat.toDigits 16 c.toNat)

def message : FormatFault → String
  | .malformed f k => "Invalid format specifier '" ++ f ++ "' for object of type '" ++ k ++ "'"
  | .unknownType t k =>
    "Unknown format code '" ++ shown t ++ "' for object of type '" ++ k ++ "'"
  | .unsupported k => "unsupported format string passed to " ++ k ++ ".__format__"
  | .separatorWith s t => "Cannot specify '" ++ s.toString ++ "' with '" ++ shown t ++ "'."
  | .bothSeparators => "Cannot specify both ',' and '_'."
  | .noPrecision => "Format specifier missing precision"
  | .longNumber => "Too many decimal digits in format string"
  | .greatPrecision => "precision too big"
  | .precision => "Precision not allowed in integer format specifier"
  | .negativeZero k => "Negative zero coercion (z) not allowed in " ++ k ++ " format specifier"
  | .signWithCharacter => "Sign not allowed with integer format specifier 'c'"
  | .alternateWithCharacter =>
    "Alternate form (#) not allowed with integer format specifier 'c'"
  | .noCharacter => "%c arg not in range(0x110000)"
  | .tooLarge => Numeral.tooLargeMessage
  | .spaceWithText => "Space not allowed in string format specifier"
  | .signWithText => "Sign not allowed in string format specifier"
  | .alternateWithText => "Alternate form (#) not allowed in string format specifier"
  | .innerWithText => "'=' alignment not allowed in string format specifier"

end FormatFault

/-- Where what is written stands in its width; an inner one has its fill behind the sign. -/
inductive Alignment where
  | left
  | right
  | center
  | inner
  deriving DecidableEq, Repr

namespace Alignment

def ofSign? : Char → Option Alignment
  | '<' => some left
  | '>' => some right
  | '^' => some center
  | '=' => some inner
  | _ => none

end Alignment

structure Format where
  fill : Char
  alignment : Alignment
  sign : Option Char
  dropsNegativeZero : Bool
  isAlternate : Bool
  width : Option Nat
  separator : Option Char
  precision : Option Nat
  type : Option Char
  deriving DecidableEq, Repr

namespace Format

def greatestNumber : Nat := 9223372036854775807

/-- A number in front of a text, if there is one. -/
def number (cs : List Char) : Except FormatFault (Option Nat × List Char) :=
  let values := (cs.map Text.decimalValue?).takeWhile Option.isSome
  let n := values.foldl (fun n d => 10 * n + d.getD 0) 0
  if greatestNumber < n then .error .longNumber
  else .ok (if values.isEmpty then none else some n, cs.drop values.length)

/-- Takes the first character if it is of a kind. -/
def takeIf (p : Char → Bool) : List Char → Option Char × List Char
  | c :: r => if p c then (some c, r) else (none, c :: r)
  | [] => (none, [])

/-- The fill and the alignment in front of a format, if they are given. -/
def front : List Char → Option Char × Option Alignment × List Char
  | c :: d :: r =>
    match Alignment.ofSign? d, Alignment.ofSign? c with
    | some a, _ => (some c, some a, r)
    | none, some a => (none, some a, d :: r)
    | none, none => (none, none, c :: d :: r)
  | [c] =>
    match Alignment.ofSign? c with
    | some a => (none, some a, [])
    | none => (none, none, [c])
  | [] => (none, none, [])

/-- The types whose digits can be separated in threes, and those in fours. -/
def threeTypes : List Char := ['d', 'e', 'f', 'g', 'E', 'G', '%', 'F']
def fourTypes : List Char := ['b', 'o', 'x', 'X']

/-- Checks that a separator goes with a type. -/
def checkSeparator (separator : Option Char) (type : Option Char) : Except FormatFault Unit :=
  match separator, type with
  | some s, some t =>
    if threeTypes.contains t || (s == '_' && fourTypes.contains t) then .ok ()
    else .error (.separatorWith s t)
  | _, _ => .ok ()

/-- The separator in front of a text. -/
def separatorOf (cs : List Char) : Except FormatFault (Option Char × List Char) := do
  let (comma, cs) := takeIf (· == ',') cs
  let (underscore, cs) := takeIf (· == '_') cs
  if comma.isSome && underscore.isSome then throw .bothSeparators
  if underscore.isSome && cs.head? == some ',' then throw .bothSeparators
  return (underscore.or comma, cs)

/-- The precision in front of a text. -/
def precisionOf (cs : List Char) : Except FormatFault (Option Nat × List Char) := do
  match takeIf (· == '.') cs with
  | (none, cs) => return (none, cs)
  | (some _, cs) =>
    match ← number cs with
    | (none, _) => throw .noPrecision
    | found => return found

/-- Reads a format for a value of a kind; numbers are aligned to the right. `standard` is the type
if none is given. -/
def read (kind : String) (isNumber : Bool) (standard : Option Char) (cs : List Char) :
    Except FormatFault Format := do
  let (fill, alignment, r) := front cs
  let (sign, r) := takeIf (fun c => c == ' ' || c == '+' || c == '-') r
  let (zeroMark, r) := takeIf (· == 'z') r
  let (alternate, r) := takeIf (· == '#') r
  let (zero, r) := if fill.isNone then takeIf (· == '0') r else (none, r)
  let usual := if !isNumber then Alignment.left else if zero.isSome then .inner else .right
  let (width, r) ← number r
  let (separator, r) ← separatorOf r
  let (precision, r) ← precisionOf r
  if 1 < r.length then throw (.malformed (String.ofList cs) kind)
  let type := r.head?.or standard
  checkSeparator separator type
  return ⟨(fill.or zero).getD ' ', alignment.getD usual, sign, zeroMark.isSome, alternate.isSome,
    width, separator, precision, type⟩

/-- Fills a text up to the width, with an inner fill in front of it. -/
def fitted (f : Format) (before cs : List Char) : List Char :=
  let missing := f.width.getD 0 - (before.length + cs.length)
  let fills := fun n => List.replicate n f.fill
  match f.alignment with
  | .left => before ++ cs ++ fills missing
  | .right => fills missing ++ before ++ cs
  | .center => fills (missing / 2) ++ before ++ cs ++ fills (missing - missing / 2)
  | .inner => before ++ fills missing ++ cs

theorem length_fitted (f : Format) (before cs : List Char) :
    (f.fitted before cs).length = max (f.width.getD 0) (before.length + cs.length) := by
  simp only [fitted]
  cases f.alignment <;> simp only [List.length_append, List.length_replicate] <;> omega

/-- Writes a text. -/
def text (f : Format) (kind : String) (s : String) : Except FormatFault String := do
  if let some t := f.type then if t ≠ 's' then throw (.unknownType t kind)
  if f.sign == some ' ' then throw .spaceWithText
  if f.sign.isSome then throw .signWithText
  if f.dropsNegativeZero then throw (.negativeZero "string")
  if f.isAlternate then throw .alternateWithText
  if f.alignment = .inner then throw .innerWithText
  let cs := match f.precision with
    | some n => s.toList.take n
    | none => s.toList
  return String.ofList (f.fitted [] cs)

end Format

/-- A number as it is written: whether it is negative, the mark of its base, its digits, and what
follows them. -/
structure Figure where
  isNegative : Bool
  mark : List Char
  digits : List Char
  rest : List Char
  deriving DecidableEq, Repr

namespace Figure

/-- Digits in groups with separators between them, from the last one on, and with zeros in front up
to a width. -/
def grouped (size : Nat) (separator : Char) : Nat → List Char → Int → List Char
  | 0, reversed, _ => reversed
  | fuel + 1, reversed, width =>
    let n := min size (max (max reversed.length width.toNat) 1)
    let group := reversed.take n
    let group := group ++ List.replicate (n - group.length) '0'
    let rest := reversed.drop n
    let width := width - n
    if rest.isEmpty && width ≤ 0 then group
    else group ++ separator :: grouped size separator fuel rest (width - 1)

/-- The sign that a figure is written with. -/
def sign (x : Figure) (f : Format) : List Char :=
  if x.isNegative then ['-']
  else match f.sign with
    | some '+' => ['+']
    | some ' ' => [' ']
    | _ => []

/-- Writes a figure by a format. -/
def text (x : Figure) (f : Format) : String :=
  let front := x.sign f ++ x.mark
  let isZeroFilled := f.fill == '0' && f.alignment = .inner
  let width : Int :=
    if isZeroFilled then (f.width.getD 0 : Int) - (front.length + x.rest.length) else 0
  let digits :=
    match f.separator with
    | some s =>
      let size := if f.type.any Format.fourTypes.contains then 4 else 3
      (grouped size s (x.digits.length + width.toNat + 1) x.digits.reverse width).reverse
    | none => List.replicate (width.toNat - x.digits.length) '0' ++ x.digits
  let digits := if x.digits.isEmpty then [] else digits
  String.ofList (f.fitted front (digits ++ x.rest))

/-- An integer in a base, with a mark of the base in the alternate form. -/
def ofInt (f : Format) (base : Nat) (mark : String) (n : Int) : Figure :=
  let upper := fun cs : List Char => if f.type = some 'X' then cs.map Char.toUpper else cs
  ⟨n < 0, if f.isAlternate then upper mark.toList else [], upper (Nat.toDigits base n.natAbs), []⟩

/-- A character by its code point. -/
def ofCharacter (f : Format) (n : Int) : Except FormatFault Figure := do
  if f.sign.isSome then throw .signWithCharacter
  if f.isAlternate then throw .alternateWithCharacter
  if n < 0 || 0x10FFFF < n then throw .noCharacter
  return ⟨false, [], [], [Char.ofNat n.toNat]⟩

/-- A decimal with as many digits as it needs, up to a number of them, with an exponent if its point
stands far off. Without an exponent it has some places at least. -/
def general (f : Format) (d : Decimal) (digits : Option Nat) (least : Nat) (greatest : Int) :
    List Char :=
  let point : Int := Decimal.width d.digits + d.exponent
  let short := Decimal.trimmed (Decimal.width d.digits) d
  let hasExponent := point ≤ -4 || greatest < point
  let full : Nat := if f.isAlternate then digits.getD 0 else 0
  let places := if hasExponent then full - 1 else max least ((full : Int) - point).toNat
  DecimalForm.text ⟨hasExponent, places, f.isAlternate⟩ short

def usualPrecision : Nat := 6

/-- The digits of `m · 2^e` by a format. -/
def binaryText (f : Format) (m : Nat) (e : Int) : List Char :=
  let n := f.precision.getD usualPrecision
  match f.type.map Char.toLower with
  | some 'e' => DecimalForm.text ⟨true, n, f.isAlternate⟩ (Double.withDigits m e (n + 1))
  | some 'f' => DecimalForm.text ⟨false, n, f.isAlternate⟩ (Double.withPlaces m e n)
  | some '%' => DecimalForm.text ⟨false, n, f.isAlternate⟩ (Double.withPlaces m e n) ++ ['%']
  | some _ => general f (Double.withDigits m e n) (some (max n 1)) 0 (max n 1)
  | none =>
    match f.precision with
    | some n => general f (Double.withDigits m e n) (some (max n 1)) 1 ((max n 1 : Nat) - 1)
    | none => general f (if m = 0 then ⟨0, 0⟩ else Double.shortest m e) none 1 16

/-- Whether digits stand for zero. -/
def isZero (cs : List Char) : Bool := cs.all fun c => !Text.isDigit c || c == '0'

/-- A number by a format. Percentages are of its hundredfold. -/
def ofDouble (f : Format) (d : Double) : Figure :=
  let d := if f.type = some '%' then d.mul (Double.ofInt 100) else d
  let upper := fun cs : List Char =>
    if f.type.any Char.isUpper then cs.map Char.toUpper else cs
  let percent := if f.type = some '%' then ['%'] else []
  match d with
  | .nan => ⟨false, [], [], upper "nan".toList ++ percent⟩
  | .infinite n => ⟨n, [], [], upper "inf".toList ++ percent⟩
  | .finite n m e =>
    let cs := upper (binaryText f m e)
    let mantissa := cs.takeWhile fun c => c.toUpper != 'E'
    let digits := cs.takeWhile Text.isDigit
    ⟨n && !(f.dropsNegativeZero && isZero mantissa), [], digits, cs.drop digits.length⟩

end Figure

namespace Format

def floatTypes : List Char := ['e', 'E', 'f', 'F', 'g', 'G', '%']

/-- Writes a number that may have a fraction. -/
def double (f : Format) (kind : String) (d : Double) : Except FormatFault String := do
  if let some t := f.type then
    if !(t == 'n' || floatTypes.contains t) then throw (.unknownType t kind)
  if f.precision.any (2147483647 < ·) then throw .greatPrecision
  return (Figure.ofDouble f d).text f

/-- Writes an integer. -/
def int (f : Format) (kind : String) (n : Int) : Except FormatFault String := do
  let t := f.type.getD 'd'
  if floatTypes.contains t then
    match Double.ofInt? n with
    | some d => f.double kind d
    | none => throw .tooLarge
  else if !"bcdoxXn".toList.contains t then throw (.unknownType t kind)
  else
    if f.precision.isSome then throw .precision
    if f.dropsNegativeZero then throw (.negativeZero "integer")
    let x ← match t with
      | 'b' => pure (Figure.ofInt f 2 "0b" n)
      | 'c' => Figure.ofCharacter f n
      | 'o' => pure (Figure.ofInt f 8 "0o" n)
      | 'x' => pure (Figure.ofInt f 16 "0x" n)
      | 'X' => pure (Figure.ofInt f 16 "0x" n)
      | _ => pure (Figure.ofInt f 10 "" n)
    return x.text f

end Format

/-- Writes a value by a format; an empty one is for its plain text. -/
def Value.formatted (v : Value) (format : String) : Except FormatFault String :=
  if format = "" then .ok v.plain
  else
    let cs := format.toList
    let kind := v.kindName
    match v with
    | .text s => do (← Format.read kind false (some 's') cs).text kind s
    | .int n => do (← Format.read kind true (some 'd') cs).int kind n
    | .bool b => do (← Format.read kind true (some 'd') cs).int kind (if b then 1 else 0)
    | .float d => do (← Format.read kind true none cs).double kind d
    | _ => .error (.unsupported kind)

end Subgraph
