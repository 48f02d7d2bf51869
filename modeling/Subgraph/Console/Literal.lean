import Subgraph.Console.Literal.Meaning
import Subgraph.Console.Literal.Parser
import Subgraph.Text.Lines
import Subgraph.Text.Names

/-!
Literal values in texts: numbers, quoted texts, and collections of them between brackets.
`Literal.check` says what is wrong with a text that should be one, if anything is.
-/

namespace Subgraph.Console.Literal

def isBlank (c : Char) : Bool := c == ' ' || c == '\t'

/-- Says what is wrong with a text that should be a literal value. -/
def check (s : String) : Except Fault Unit := do
  let cs := s.toList.dropWhile isBlank
  if cs.contains '\x00' then throw .nullCharacter
  let e ← parse Text.isCharacterName (cs.length + 1) .input (Text.normalizeNewlines cs)
  let _ ← e.changing

end Subgraph.Console.Literal
