import Subgraph.Text.Display
import Subgraph.Text.Quoted

/-!
Texts as rows of code points.

Unlike a string, such a row can hold surrogates, which are no characters. Where a string is wanted
all the same, a high surrogate and the low one behind it are one character.
-/

namespace Subgraph.Text

abbrev Points := List Nat

namespace Points

def ofString (s : String) : Points := s.toList.map Char.toNat

def toString (ps : Points) : String := String.ofList (ps.map Char.ofNat)

/-- The string with these code points, if all of them are characters. -/
def string? (ps : Points) : Option String := if ps.all isScalar then some (toString ps) else none

theorem toString_ofString (s : String) : toString (ofString s) = s := by
  have h : (Char.ofNat ∘ Char.toNat) = id := by
    funext c
    simp
  simp [toString, ofString, h]

def isHigh (n : Nat) : Bool := 0xD800 ≤ n && n < 0xDC00
def isLow (n : Nat) : Bool := 0xDC00 ≤ n && n < 0xE000

/-- The characters of code points; a surrogate without its other half is unknown. -/
def characters : Points → List Char
  | [] => []
  | [a] => [single a]
  | a :: b :: r =>
    if isHigh a && isLow b then Char.ofNat (surrogatePair a b) :: characters r
    else single a :: characters (b :: r)
where
  single (n : Nat) : Char := if isScalar n then Char.ofNat n else '\uFFFD'

/-- The string that code points stand for. -/
def joined (ps : Points) : String := String.ofList (characters ps)

/-- The displayed form of a text, in which surrogates are written as escapes. -/
def display (ps : Points) : String :=
  let quote := displayQuote ((ps.filter isScalar).map Char.ofNat)
  String.ofList (quote :: ps.flatMap (displayPoint quote) ++ [quote])
where
  displayPoint (quote : Char) (n : Nat) : List Char :=
    if isScalar n then displayChar quote (Char.ofNat n) else '\\' :: 'u' :: lowerHex 4 n

end Points
end Subgraph.Text
