import Subgraph.Files.Tree

/-!
The schema files that locations lead to: a file itself, and everything below a folder that has
the name of one. Each is listed once, and they are ordered by their parts.
-/

namespace Subgraph.Files

def schemaExtension : String := ".graphql"

def hasSchemaName (names : List String) : Bool :=
  names.getLast?.any fun n => n.endsWith schemaExtension

/-- What a single location leads to. -/
def resolveOne (d : Disk) (l : Location) : List Location :=
  match d.find? l with
  | none => []
  | some (.file _) => [l]
  | some t => (t.contents.filter fun e => hasSchemaName e.1).map fun e => l.append e.1

def resolve (d : Disk) (ls : List Location) : List Location :=
  (ls.flatMap (resolveOne d)).eraseDups.mergeSort fun l m => !m.isBefore l

end Subgraph.Files
