import Subgraph.Console.Literal.Token

/-!
The escapes of quoted texts and bytes.

The places of a text's escapes are those that they have after every character beyond ASCII has been
written as an escape of ten characters.
-/

namespace Subgraph.Console.Literal

namespace Escape

/-- How many digits follow the letter of an escape by number. -/
def widths : List (Char × Nat) := [('x', 2), ('u', 4), ('U', 8)]

def greatestPoint : Nat := 0x10FFFF

def truncated (letter : Char) (width : Nat) : String :=
  "truncated \\" ++ letter.toString ++ String.ofList (List.replicate width 'X') ++ " escape"

/-- A text in ASCII, with escapes for all other characters. -/
def expanded : List Char → List Char
  | [] => []
  | '\\' :: c :: r =>
    if c.toNat < 0x80 then '\\' :: c :: expanded r else "\\u005c".toList ++ wide c ++ expanded r
  | ['\\'] => "\\u005c".toList
  | c :: r => if c.toNat < 0x80 then c :: expanded r else wide c ++ expanded r
where
  wide (c : Char) : List Char := '\\' :: 'U' :: Text.lowerHex 8 c.toNat

/-- Checks the escapes of a text from a position on. -/
def checkText (isName : String → Bool) : Nat → Nat → List Char → Except Fault Unit
  | 0, _, _ => .ok ()
  | _, _, [] => .ok ()
  | fuel + 1, p, '\\' :: c :: r =>
    let fault := fun size why => Except.error (Fault.textEscape p (p + size - 1) why)
    match widths.lookup c with
    | some width =>
      let digits := (r.take width).takeWhile fun c => (Text.hexValue? c).isSome
      if digits.length < width then fault (2 + digits.length) (truncated c width)
      else if (Text.hexRun? digits).any (greatestPoint < ·) then
        fault (2 + width) "illegal Unicode character"
      else checkText isName fuel (p + 2 + width) (r.drop width)
    | none =>
      if c != 'N' then checkText isName fuel (p + 2) r
      else
        let malformed := "malformed \\N character escape"
        match r with
        | '\x7b' :: r =>
          let name := r.takeWhile (· != '\x7d')
          if r.length = name.length || name.isEmpty then fault (3 + name.length) malformed
          else if isName (String.ofList name) then
            checkText isName fuel (p + 4 + name.length) (r.drop (name.length + 1))
          else fault (4 + name.length) "unknown Unicode character name"
        | _ => fault 2 malformed
  | fuel + 1, p, _ :: r => checkText isName fuel (p + 1) r

/-- Checks the escapes of bytes from a position on. -/
def checkBytes : Nat → List Char → Except Fault Unit
  | p, '\\' :: 'x' :: a :: b :: r =>
    if (Text.hexValue? a).isSome && (Text.hexValue? b).isSome then checkBytes (p + 4) r
    else .error (.byteEscape p)
  | p, '\\' :: 'x' :: _ => .error (.byteEscape p)
  | p, '\\' :: _ :: r => checkBytes (p + 2) r
  | p, _ :: r => checkBytes (p + 1) r
  | _, [] => .ok ()

def check (isName : String → Bool) (cs : List Char) : Except Fault Unit :=
  let cs := expanded cs
  checkText isName (cs.length + 1) 0 cs

end Escape

end Subgraph.Console.Literal
