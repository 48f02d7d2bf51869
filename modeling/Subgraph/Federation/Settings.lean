import Subgraph.Federation.Directives
import Subgraph.Federation.Reference

/-!
The federation settings of types, and the directives that they ask for.
-/

namespace Subgraph.Federation

structure TypeSettings where
  keySets : List KeySet
  extend : Bool
  reference : Option Reference
  deriving Inhabited

def TypeSettings.isEntity (t : TypeSettings) : Bool := !t.keySets.isEmpty

/-- One key directive for each key set, then the one that marks an extension. -/
def TypeSettings.directives (t : TypeSettings) : List Applied :=
  t.keySets.map keyApplication ++ if t.extend then [extendsApplication] else []

/-- Settings by type name. -/
abbrev Config := Entries TypeSettings

end Subgraph.Federation
