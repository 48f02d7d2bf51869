import Subgraph.Text.Quoted
import Subgraph.Text.Block

/-!
The tokens of a document and how a text falls into them.

`Token.scan` gives every token with its position. Blanks, commas and comments separate tokens
and are dropped. The last token says that the text ends, or what is wrong where no token can
be read, and stands at the very place; nothing follows it.
-/

namespace Subgraph

inductive Punctuation where
  | bang | dollar | ampersand | parenLeft | parenRight | spread | colon | equals | atSign
  | bracketLeft | bracketRight | braceLeft | pipe | braceRight
  deriving DecidableEq, Repr, Inhabited

def Punctuation.text : Punctuation → String
  | .bang => "!"
  | .dollar => "$"
  | .ampersand => "&"
  | .parenLeft => "("
  | .parenRight => ")"
  | .spread => "..."
  | .colon => ":"
  | .equals => "="
  | .atSign => "@"
  | .bracketLeft => "["
  | .bracketRight => "]"
  | .braceLeft => "\x7b"
  | .pipe => "|"
  | .braceRight => "\x7d"

def Punctuation.ofChar? (c : Char) : Option Punctuation :=
  if c = '!' then some .bang
  else if c = '$' then some .dollar
  else if c = '&' then some .ampersand
  else if c = '(' then some .parenLeft
  else if c = ')' then some .parenRight
  else if c = ':' then some .colon
  else if c = '=' then some .equals
  else if c = '@' then some .atSign
  else if c = '[' then some .bracketLeft
  else if c = ']' then some .bracketRight
  else if c = '\x7b' then some .braceLeft
  else if c = '|' then some .pipe
  else if c = '\x7d' then some .braceRight
  else none

/-- The character at a place of a text, or its end. -/
abbrev Place := Option Char

def Place.text : Place → String
  | none => "<EOF>"
  | some c =>
    if c = '"' then "'\"'"
    else if 0x20 ≤ c.toNat ∧ c.toNat ≤ 0x7e then "'" ++ c.toString ++ "'"
    else "U+" ++ String.ofList (Text.upperHex 4 c.toNat)

inductive ScanError where
  | singleQuote
  | character (place : Place)
  | digitAfterZero (place : Place)
  | digitExpected (place : Place)
  | unterminated
  | escape (e : Text.EscapeError)
  deriving DecidableEq, Repr

def ScanError.message : ScanError → String
  | .singleQuote =>
    "Unexpected single quote character ('), did you mean to use a double quote (\")?"
  | .character p => "Unexpected character: " ++ p.text ++ "."
  | .digitAfterZero p => "Invalid number, unexpected digit after 0: " ++ p.text ++ "."
  | .digitExpected p => "Invalid number, expected digit but got: " ++ p.text ++ "."
  | .unterminated => "Unterminated string."
  | .escape e => e.message

inductive Lexeme where
  | punctuation (p : Punctuation)
  | name (s : String)
  | int (digits : String)
  | float (digits : String)
  | string (text : String) (block : Bool)
  | finish
  | bad (e : ScanError)
  deriving DecidableEq, Repr

instance : Inhabited Lexeme := ⟨.finish⟩

namespace Lexeme

/-- The text that a token stands for, where it stands for one. -/
def value? : Lexeme → Option String
  | .name s => some s
  | .int s => some s
  | .float s => some s
  | .string s _ => some s
  | _ => none

def kindName : Lexeme → String
  | .punctuation p => "'" ++ p.text ++ "'"
  | .name _ => "Name"
  | .int _ => "Int"
  | .float _ => "Float"
  | .string _ false => "String"
  | .string _ true => "BlockString"
  | .finish => "<EOF>"
  | .bad e => e.message

/-- How a message speaks of a token. -/
def described (l : Lexeme) : String :=
  match l.value? with
  | some s => l.kindName ++ " '" ++ s ++ "'"
  | none => l.kindName

end Lexeme

structure Token where
  position : Nat
  lexeme : Lexeme
  deriving DecidableEq, Repr, Inhabited

namespace Token
open Text

/-- What is wrong with a text, and how much of the text is left from there on. -/
structure Fault where
  error : ScanError
  left : Nat

/-- A lexeme with the text after it. -/
abbrev Scanned := Except Fault (Lexeme × List Char)

/-- At least one digit. -/
def scanDigits (cs : List Char) : Except Fault (List Char × List Char) :=
  match cs.takeWhile isDigit with
  | [] => .error ⟨.digitExpected cs.head?, cs.length⟩
  | ds => .ok (ds, cs.dropWhile isDigit)

def scanWhole (cs : List Char) : Except Fault (List Char × List Char) :=
  match cs with
  | '0' :: r =>
    if r.head?.any isDigit then .error ⟨.digitAfterZero r.head?, r.length⟩ else .ok (['0'], r)
  | _ => scanDigits cs

def scanFraction (cs : List Char) : Except Fault (List Char × List Char) :=
  match cs with
  | '.' :: r => do
    let (ds, rest) ← scanDigits r
    return ('.' :: ds, rest)
  | _ => .ok ([], cs)

def scanSign (cs : List Char) : List Char × List Char :=
  match cs with
  | '+' :: r => (['+'], r)
  | '-' :: r => (['-'], r)
  | _ => ([], cs)

def scanExponent (cs : List Char) : Except Fault (List Char × List Char) :=
  match cs with
  | c :: r =>
    if c = 'e' ∨ c = 'E' then do
      let (sign, r) := scanSign r
      let (ds, rest) ← scanDigits r
      return (c :: sign ++ ds, rest)
    else .ok ([], cs)
  | [] => .ok ([], [])

/-- A number, which neither a point nor a name may follow. -/
def scanNumber (cs : List Char) : Scanned := do
  let (minus, r) := match cs with
    | '-' :: r => (['-'], r)
    | _ => ([], cs)
  let (whole, r) ← scanWhole r
  let (fraction, r) ← scanFraction r
  let (exponent, r) ← scanExponent r
  if r.head?.any fun c => c == '.' || isNameStart c then .error ⟨.digitExpected r.head?, r.length⟩
  else
    let s := String.ofList (minus ++ whole ++ fraction ++ exponent)
    return (if fraction.isEmpty && exponent.isEmpty then .int s else .float s, r)

/-- The text up to the closing quote. -/
def scanQuoted : Nat → List Char → List Char → Scanned
  | 0, _, cs => .error ⟨.unterminated, cs.length⟩
  | fuel + 1, done, cs =>
    match cs with
    | [] => .error ⟨.unterminated, 0⟩
    | '"' :: r => .ok (.string (String.ofList done.reverse) false, r)
    | '\\' :: _ =>
      match readEscape cs with
      | .ok (c, n) => scanQuoted fuel (c :: done) (cs.drop n)
      | .error e => .error ⟨.escape e, cs.length⟩
    | c :: r =>
      if c = '\n' ∨ c = '\r' then .error ⟨.unterminated, cs.length⟩
      else scanQuoted fuel (c :: done) r

/-- The text up to three closing quotes. -/
def scanBlock : List Char → List Char → Scanned
  | _, [] => .error ⟨.unterminated, 0⟩
  | done, '"' :: '"' :: '"' :: r =>
    let ls := dedent (splitAt (· == '\n') (normalizeNewlines done.reverse))
    .ok (.string (joinLines (ls.map String.ofList)) true, r)
  | done, '\\' :: '"' :: '"' :: '"' :: r => scanBlock ('"' :: '"' :: '"' :: done) r
  | done, c :: r => scanBlock (c :: done) r

def isSeparator (c : Char) : Bool :=
  c == ' ' || c == '\t' || c == ',' || c == '\n' || c == '\r' || c == '\uFEFF'

def isCommentEnd (c : Char) : Bool := c == '\n' || c == '\r'

/-- The lexeme at the front of a text whose first character separates nothing. -/
def scanOne (cs : List Char) : Scanned :=
  match cs with
  | [] => .ok (.finish, [])
  | '"' :: '"' :: '"' :: r => scanBlock [] r
  | '"' :: r => scanQuoted (r.length + 1) [] r
  | '.' :: '.' :: '.' :: r => .ok (.punctuation .spread, r)
  | c :: r =>
    match Punctuation.ofChar? c with
    | some p => .ok (.punctuation p, r)
    | none =>
      if isDigit c || c == '-' then scanNumber cs
      else if isNameStart c then
        .ok (.name (String.ofList (cs.takeWhile isNameChar)), cs.dropWhile isNameChar)
      else if c = '\'' then .error ⟨.singleQuote, cs.length⟩
      else .error ⟨.character (some c), cs.length⟩

/-- Drops separators and comments. -/
def skipSeparators : Nat → List Char → List Char
  | 0, cs => cs
  | fuel + 1, cs =>
    match cs with
    | [] => []
    | '#' :: r => skipSeparators fuel (r.dropWhile (!isCommentEnd ·))
    | c :: r => if isSeparator c then skipSeparators fuel r else cs

def scanFrom (size : Nat) : Nat → List Char → List Token
  | 0, _ => [⟨size, .finish⟩]
  | fuel + 1, cs =>
    let cs := skipSeparators (cs.length + 1) cs
    let position := size - cs.length
    match scanOne cs with
    | .error f => [⟨size - f.left, .bad f.error⟩]
    | .ok (.finish, _) => [⟨position, .finish⟩]
    | .ok (l, rest) => ⟨position, l⟩ :: scanFrom size fuel rest

def scan (s : String) : List Token :=
  let cs := s.toList
  scanFrom cs.length (cs.length + 1) cs

end Token
end Subgraph
