import Subgraph.Text.Points

/-!
Bytes written with sixty-four characters. Characters outside the alphabet count for nothing;
padding in its place ends the bytes.
-/

namespace Subgraph.Yaml.Base64

def sextet? (c : Char) : Option Nat :=
  if 'A' ≤ c ∧ c ≤ 'Z' then some (c.toNat - 65)
  else if 'a' ≤ c ∧ c ≤ 'z' then some (c.toNat - 71)
  else if Text.isDigit c then some (c.toNat + 4)
  else if c = '+' then some 62
  else if c = '/' then some 63
  else none

/-- Why a text stands for no bytes: characters from a position on that are not ASCII, a last
character that gives no whole byte, or padding that is missing. -/
inductive Fault where
  | notPlain (position count first : Nat)
  | excess (characters : Nat)
  | padding
  deriving DecidableEq, Repr

/-- A code point as a number with the mark for its width. -/
def numbered (n : Nat) : String :=
  let (mark, width) := if n < 0x100 then ('x', 2) else if n < 0x10000 then ('u', 4) else ('U', 8)
  String.ofList ('\\' :: mark :: Text.lowerHex width n)

def Fault.message : Fault → String
  | .notPlain p n c =>
    "failed to convert base64 data into ascii: 'ascii' codec can't encode character"
      ++ (if n ≤ 1 then " '" ++ numbered c ++ "' in position " ++ toString p
        else "s in position " ++ toString p ++ "-" ++ toString (p + n - 1))
      ++ ": ordinal not in range(128)"
  | .excess n =>
    "failed to decode base64 data: Invalid base64-encoded string: number of data characters ("
      ++ toString n ++ ") cannot be 1 more than a multiple of 4"
  | .padding => "failed to decode base64 data: Incorrect padding"

/-- Decodes from a place among four characters, with the bits that are left of the last one, the
padding so far and the characters that count so far. -/
def decodeFrom (place left pads counted : Nat) : List Char → Except Fault (List Nat)
  | [] =>
    if place = 0 then .ok [] else if place = 1 then .error (.excess counted) else .error .padding
  | c :: r =>
    if c = '=' then
      if 2 ≤ place ∧ 3 ≤ place + pads then .ok []
      else decodeFrom place left (if 2 ≤ place then pads + 1 else pads) counted r
    else match sextet? c with
      | none => decodeFrom place left pads counted r
      | some v =>
        match place with
        | 0 => decodeFrom 1 v 0 (counted + 1) r
        | 1 => (decodeFrom 2 (v % 16) 0 (counted + 1) r).map ((left * 4 + v / 16) :: ·)
        | 2 => (decodeFrom 3 (v % 4) 0 (counted + 1) r).map ((left * 16 + v / 4) :: ·)
        | _ => (decodeFrom 0 0 0 (counted + 1) r).map ((left * 64 + v) :: ·)

def isPlain (n : Nat) : Bool := n < 128

/-- The bytes of a text in ASCII. -/
def decode (ps : Text.Points) : Except Fault (List Nat) :=
  let front := ps.takeWhile isPlain
  match ps.drop front.length with
  | [] => decodeFrom 0 0 0 0 (ps.map Char.ofNat)
  | n :: r => .error (.notPlain front.length (1 + (r.takeWhile (!isPlain ·)).length) n)

end Subgraph.Yaml.Base64
