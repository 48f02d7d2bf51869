import Subgraph.Files.Resolve
import Subgraph.Log
import Subgraph.Schema.Printer
import Subgraph.Schema.Read

/-!
Loading a schema from files. Each file has to be a document of its own; the schema is built from
all of them, one after another.
-/

namespace Subgraph

inductive LoadError where
  | file (name text : String) (e : SyntaxError)
  | schema (text : String) (e : SchemaError)
  | unwritable (e : Value.Unwritable)

def LoadError.message : LoadError → String
  | .file n text e => "Could not load " ++ n ++ ":\n" ++ e.report text
  | .schema text (.text e) => e.report text
  | .schema _ e => e.message
  | .unwritable e => e.message

namespace Files

def documentExtensions : List String := [".graphql", ".graphqls", ".gql"]

/-- Whether a file of a folder is a part of the document that the folder is. -/
def hasDocumentName (names : List String) : Bool :=
  names.getLast?.any fun n => documentExtensions.any fun x => n.toLower.endsWith x

/-- The text of a file, which has to be a document. -/
def documentText (name text : String) : Except LoadError String := do
  let text := String.ofList (Text.normalizeNewlines text.toList)
  match Document.parse Unit text with
  | .ok _ => return text
  | .error e => throw (.file name text e)

/-- The names and texts of the documents below a folder, ordered by their names. -/
def documentsBelow (folder : Location) (t : FileTree) : List (String × String) :=
  let found := t.files.filterMap fun f =>
    if hasDocumentName f.1 then some ((folder.append f.1).text, f.2) else none
  found.mergeSort fun a b => decide (a.1 ≤ b.1)

def readOne (d : Disk) (l : Location) : Except LoadError String :=
  match d.find? l with
  | none => .ok ""
  | some (.file text) => documentText (d.plainText l) text
  | some t => do
    let texts ← (documentsBelow l t).mapM fun f => documentText f.1 f.2
    return "\n".intercalate texts

def readAll (d : Disk) (ls : List Location) : Except LoadError String := do
  let texts ← (resolve d ls).mapM (readOne d)
  return String.join (texts.map (· ++ "\n"))

end Files

/-- Loads a schema from the files that locations lead to. -/
def Schema.load (d : Disk) (ls : List Location) : Logged LoadError Schema := do
  let text ← Logged.ofExcept id (Files.readAll d ls)
  let s ← Logged.ofExcept (.schema text) (Schema.read text false)
  Logged.say [info "Successfully built the given GraphQL schema string."]
  let printed ← Logged.ofExcept .unwritable s.print?
  Logged.say [debug ("Read schema: \n" ++ printed)]
  return s

end Subgraph
