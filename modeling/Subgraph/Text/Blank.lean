/-!
White space in the wide sense: blanks, line ends and separators of every script.
-/

namespace Subgraph.Text

def whiteRanges : List (Nat × Nat) :=
  [(0x9, 0xd), (0x1c, 0x20), (0x85, 0x85), (0xa0, 0xa0), (0x1680, 0x1680), (0x2000, 0x200a),
   (0x2028, 0x2029), (0x202f, 0x202f), (0x205f, 0x205f), (0x3000, 0x3000)]

def isWhite (c : Char) : Bool := whiteRanges.any fun r => r.1 ≤ c.toNat && c.toNat ≤ r.2

/-- A text without the white space at its ends. -/
def stripped (s : String) : String :=
  String.ofList (((s.toList.dropWhile isWhite).reverse.dropWhile isWhite).reverse)

/-- The pieces of a text between occurrences of a character. -/
def pieces (c : Char) (s : String) : List String := go [] s.toList
where
  go (done : List Char) : List Char → List String
    | [] => [String.ofList done.reverse]
    | d :: r => if d = c then String.ofList done.reverse :: go [] r else go (d :: done) r

end Subgraph.Text
