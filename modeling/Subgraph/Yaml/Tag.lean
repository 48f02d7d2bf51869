import Subgraph.Yaml.Number
import Subgraph.Yaml.Timestamp

/-!
The tags of YAML nodes: by their names, and for a plain scalar by its text.
-/

namespace Subgraph.Yaml

inductive Tag where
  | null
  | bool
  | int
  | float
  | binary
  | timestamp
  | merge
  | value
  | text
  | sequence
  | mapping
  | set
  | orderedMap
  | pairs
  | unknown (name : String)
  deriving DecidableEq, Repr, Inhabited

namespace Tag

def coreNames : List (String × Tag) :=
  [("null", .null), ("bool", .bool), ("int", .int), ("float", .float), ("binary", .binary),
   ("timestamp", .timestamp), ("merge", .merge), ("value", .value), ("str", .text),
   ("seq", .sequence), ("map", .mapping), ("set", .set), ("omap", .orderedMap), ("pairs", .pairs)]

/-- What the names of the core tags begin with. -/
def coreRoot : String := "tag:yaml.org,2002:"

def ofName (name : String) : Tag :=
  ((coreNames.map fun t => (coreRoot ++ t.1, t.2)).lookup name).getD (.unknown name)

/-- A word in lower case, in capitals, or with a capital at its front. -/
def isCasing (words : List String) (s : String) : Bool :=
  words.any fun w => s == w || s == w.toUpper || s == w.capitalize

def boolWords : List (String × Bool) :=
  [("yes", true), ("no", false), ("true", true), ("false", false), ("on", true), ("off", false)]

/-- The tag of a plain scalar, for which one line end behind it counts for nothing. -/
def ofText (s : String) : Tag :=
  let s := if s == "\n" then s else Text.withoutFinalBreak s
  if isCasing (boolWords.map (·.1)) s then .bool
  else if Number.isFloat s then .float
  else if Number.isInt s then .int
  else if s == "<<" then .merge
  else if s == "" || s == "~" || isCasing ["null"] s then .null
  else if Timestamp.isTimestamp s then .timestamp
  else if s == "=" then .value
  else if s == "!" || s == "&" || s == "*" then .unknown (coreRoot ++ "yaml")
  else .text

end Tag
end Subgraph.Yaml
