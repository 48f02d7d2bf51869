import Subgraph.Text.Chars

/-!
Key sets: the fields that identify an entity, as field names or raw selections.

`KeySet.joined` is the text of a key, and `KeySet.topNames` are the fields that it selects at
the top. Only names and braces count in the text; whatever else it holds separates them.
-/

namespace Subgraph.Federation
open Text

abbrev KeySet := List String

inductive KeyToken where
  | opening
  | closing
  | name (s : String)
  deriving DecidableEq, Repr

namespace KeyToken

/-- Ends the name whose characters were read last, if there is one. -/
def finish (pending : List Char) (rest : List KeyToken) : List KeyToken :=
  if pending.isEmpty then rest else .name (String.ofList pending.reverse) :: rest

/-- The tokens of a text; `pending` are the characters of a name just read, last one first. -/
def scan (pending : List Char) : List Char → List KeyToken
  | [] => finish pending []
  | c :: cs =>
    if isNameStart c || (!pending.isEmpty && isDigit c) then scan (c :: pending) cs
    else if c = '\x7b' then finish pending (.opening :: scan [] cs)
    else if c = '\x7d' then finish pending (.closing :: scan [] cs)
    else finish pending (scan [] cs)

/-- The names outside all braces, with the depth at the start. -/
def atTop (depth : Int) : List KeyToken → List String
  | [] => []
  | .opening :: ts => atTop (depth + 1) ts
  | .closing :: ts => atTop (depth - 1) ts
  | .name s :: ts => if depth = 0 then s :: atTop depth ts else atTop depth ts

end KeyToken

namespace KeySet

def joined (k : KeySet) : String := " ".intercalate k

def tokens (k : KeySet) : List KeyToken := KeyToken.scan [] k.joined.toList

/-- The fields selected at the top, each once, in order of first occurrence. -/
def topNames (k : KeySet) : List String := (KeyToken.atTop 0 k.tokens).eraseDups

end KeySet
end Subgraph.Federation
