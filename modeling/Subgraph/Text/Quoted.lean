import Subgraph.Text.Chars

/-!
Quoted strings of a document. `quote` escapes the quote, the backslash and the control
characters; `readEscape` reads one escape, and every escape that `quote` writes is read back.
-/

namespace Subgraph.Text

/-- Characters with an escape of one letter. -/
def escapeLetter? (c : Char) : Option Char :=
  if c = '"' then some '"'
  else if c = '\\' then some '\\'
  else if c = '\x08' then some 'b'
  else if c = '\x0c' then some 'f'
  else if c = '\n' then some 'n'
  else if c = '\r' then some 'r'
  else if c = '\t' then some 't'
  else none

def letterEscape? (c : Char) : Option Char :=
  if c = '"' then some '"'
  else if c = '\\' then some '\\'
  else if c = '/' then some '/'
  else if c = 'b' then some '\x08'
  else if c = 'f' then some '\x0c'
  else if c = 'n' then some '\n'
  else if c = 'r' then some '\r'
  else if c = 't' then some '\t'
  else none

theorem letterEscape_escapeLetter {c d : Char} (h : escapeLetter? c = some d) :
    letterEscape? d = some c := by
  unfold escapeLetter? at h
  repeat' split at h
  all_goals simp_all [letterEscape?] <;> subst h <;> decide

def isControl (c : Char) : Bool := c.toNat < 0x20 || (0x7f ≤ c.toNat && c.toNat < 0xa0)

def escapeChar (c : Char) : List Char :=
  match escapeLetter? c with
  | some d => ['\\', d]
  | none => if isControl c then '\\' :: 'u' :: upperHex 4 c.toNat else [c]

def quote (s : String) : String :=
  String.ofList ('"' :: s.toList.flatMap escapeChar ++ ['"'])

inductive EscapeError where
  | letter (text : String)
  | codePoint (text : String)
  deriving DecidableEq, Repr

def EscapeError.message : EscapeError → String
  | .letter t => "Invalid character escape sequence: '" ++ t ++ "'."
  | .codePoint t => "Invalid Unicode escape sequence: '" ++ t ++ "'."

def surrogatePair (high low : Nat) : Nat := 0x10000 + (high - 0xD800) * 0x400 + (low - 0xDC00)

/-- Reads the digits of a braced code point; `size` counts the characters since the backslash. -/
def readBraced (size point : Nat) : List Char → Except Nat (Char × Nat)
  | [] => .error size
  | c :: r =>
    if 12 ≤ size then .error size
    else if c = '\x7d' then
      if 4 ≤ size ∧ isScalar point then .ok (Char.ofNat point, size + 1) else .error (size + 1)
    else match hexValue? c with
      | some v => readBraced (size + 1) (point * 16 + v) r
      | none => .error (size + 1)

/-- Reads the escape at the front of `cs`, which starts with a backslash: the character it
stands for, and how many characters it takes. -/
def readEscape (cs : List Char) : Except EscapeError (Char × Nat) :=
  match cs with
  | _ :: 'u' :: '\x7b' :: r =>
    match readBraced 3 0 r with
    | .ok p => .ok p
    | .error n => .error (.codePoint (String.ofList (cs.take n)))
  | _ :: 'u' :: r =>
    let digits := r.take 4
    let bad := Except.error (EscapeError.codePoint (String.ofList (cs.take 6)))
    match (if digits.length = 4 then hexRun? digits else none) with
    | none => bad
    | some code =>
      if isScalar code then .ok (Char.ofNat code, 6)
      else match r.drop 4 with
        | '\\' :: 'u' :: tail =>
          let more := tail.take 4
          match (if more.length = 4 then hexRun? more else none) with
          | some low =>
            if code < 0xDC00 ∧ 0xDC00 ≤ low ∧ low < 0xE000 then
              .ok (Char.ofNat (surrogatePair code low), 12)
            else bad
          | none => bad
        | _ => bad
  | _ :: c :: _ =>
    match letterEscape? c with
    | some d => .ok (d, 2)
    | none => .error (.letter (String.ofList (cs.take 2)))
  | _ => .error (.letter (String.ofList cs))

end Subgraph.Text
