import Subgraph.Text.Chars
import Subgraph.Text.Printable

/-!
The displayed form of a text inside a larger value: between single quotes, or between double
quotes when the text has a single quote and no double one. Characters without a visible form
are written as escapes of two, four or eight hexadecimal digits.
-/

namespace Subgraph.Text

def displayQuote (cs : List Char) : Char :=
  if cs.contains '\'' && !cs.contains '"' then '"' else '\''

def displayChar (quote c : Char) : List Char :=
  if c = quote ∨ c = '\\' then ['\\', c]
  else if c = '\n' then ['\\', 'n']
  else if c = '\r' then ['\\', 'r']
  else if c = '\t' then ['\\', 't']
  else if isPrintable c then [c]
  else if c.toNat < 0x100 then '\\' :: 'x' :: lowerHex 2 c.toNat
  else if c.toNat < 0x10000 then '\\' :: 'u' :: lowerHex 4 c.toNat
  else '\\' :: 'U' :: lowerHex 8 c.toNat

def display (s : String) : String :=
  let quote := displayQuote s.toList
  String.ofList (quote :: s.toList.flatMap (displayChar quote) ++ [quote])

end Subgraph.Text
