import Subgraph.Config.Nodes

/-!
Loading a configuration from the text of a file.
-/

namespace Subgraph.Config
open Federation

/-- Loads a configuration from a path and the text there. Without a file, and from a text without
settings, it is empty. -/
def load (registry : Registry) (source : Option (String × String)) : Logged ConfigError Config := do
  match source with
  | none =>
    Logged.say [debug "No federation config provided"]
    return []
  | some (path, text) =>
    let raw ← Logged.ofExcept id (Raw.read text)
    Logged.say [debug ("Loaded federation config from " ++ path)]
    match raw.unfolded with
    | .null => return []
    | .record es =>
      let c ← Logged.ofExcept id (parse registry (.record es))
      Logged.say [parseRecord c]
      return c
    | v => throw (.rootNotMapping v.kindName)

end Subgraph.Config
