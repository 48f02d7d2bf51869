import Subgraph.Schema.Resolve

/-!
Building a schema from a document and extending a schema by one.

Types keep the order of their definitions, and built-in types follow the first type that uses
them.
-/

namespace Subgraph
namespace Build

/-- The names that a type refers to, in order. -/
def references (t : NamedType) : List String :=
  match t.shape with
  | .union ms => ms
  | .input _ fs => fs.map (·.type.base)
  | s => s.interfaces ++ s.fields.flatMap fun f => f.type.base :: f.arguments.map (·.type.base)

/-- Adds a built-in type and the built-in types it refers to, unless they are there or have a place
of their own. -/
def addBuiltin (own : String → Bool) : Nat → List NamedType → String → List NamedType
  | 0, ts, _ => ts
  | fuel + 1, ts, name =>
    if own name || ts.any (·.name == name) then ts
    else match Builtin.type? name with
      | none => ts
      | some t => (references t).foldl (addBuiltin own fuel) (ts ++ [t])

def builtinDepth : Nat := (Builtin.scalars ++ Builtin.introspection).length

/-- Puts the built-in types that are used, and those of introspection, among the given types. -/
def withBuiltins (types : List NamedType) (directives : List DirectiveType) : List NamedType :=
  let own := fun name => types.any (·.name == name)
  let add := fun ts names => names.foldl (addBuiltin own builtinDepth) ts
  let placed := types.foldl (fun ts t => add (ts ++ [t]) (references t)) []
  let placed := add placed (directives.flatMap fun d => d.arguments.map (·.type.base))
  add placed ["__Schema"]

def rootOf (kind : OperationKind) (operations : List (OperationKind × String))
    (old : Option String) : Option String :=
  match operations.reverse.find? (·.1 == kind) with
  | some o => some o.2
  | none => old

/-- A named type that stands for itself and for its replacement: specified directives keep the
types of their arguments when a schema grows, and every type that is defined is made anew. -/
def duplicate? (directives : List DirectiveType) : Option String :=
  ((directives.filter (·.isSpecified)).flatMap (·.arguments.map (·.type.base))).find?
    (!isBuiltinName ·)

end Build

namespace Schema
open Build

/-- Takes the values of the defaults in place of how they are written, so that they no longer
hang on the types. -/
def evaluated (s : Schema) : Schema :=
  { s with
    types := s.types.map fun t => { t with shape := t.shape.mapInputs (·.evaluated s) }
    directives := s.directives.map fun d =>
      { d with arguments := d.arguments.map (·.evaluated s) } }

/-- Adds the definitions of a document, but not the built-in types that they use. A description
in the document's schema definition takes the place of the old one. Of directives of one name
that were there the last one stays. -/
def add (old : Schema) (doc : Document Unit) : Except BuildError Schema := do
  let s := old.evaluated
  let p := parts doc
  (s.types.filter (·.isDefined)).forM fun t =>
    extensionFault t (p.extensions.filter (·.name == t.name))
  (p.types.filter fun d => (Builtin.type? d.2.name).isNone).forM fun d =>
    definitionFault p.extensions d.2
  let existing := s.types.map fun t =>
    if t.isDefined then (p.extensions.filter (·.name == t.name)).foldl extendExisting t else t
  let defined := p.types.map fun d => namedType p.extensions d.1 d.2
  let types := lastByName (·.name) (existing ++ defined)
  let draft := Draft.ofTypes types
  let last := p.schemas.getLast?
  let operations :=
    (last.map (·.2.operations)).getD [] ++ p.schemaExtensions.flatMap (·.operations)
  operations.forM fun o => if draft.isKnown o.2 then return () else throw (.unknownType o.2)
  let directives := lastByName (·.name) s.directives ++ p.directives.map directiveType
  draft.resolve ((s.directives.filter (!·.isSpecified)).flatMap (·.arguments)
    ++ p.directives.flatMap (·.arguments.map inputValue))
  if let some n := duplicate? s.directives then throw (.duplicateType n)
  return {
    description := (last.bind (·.1)).or s.description
    types := types.map settle
    directives
    query := rootOf .query operations s.query
    mutation := rootOf .mutation operations s.mutation
    subscription := rootOf .subscription operations s.subscription }

def placeBuiltins (s : Schema) : Schema :=
  { s with types := withBuiltins s.types s.directives }

def extend (s : Schema) (doc : Document Unit) : Except BuildError Schema :=
  placeBuiltins <$> s.add doc

/-- The type that takes a root which no definition names. -/
def defaultRoot (kind : OperationKind) : String :=
  match kind with
  | .query => "Query"
  | .mutation => "Mutation"
  | .subscription => "Subscription"

/-- Builds the schema of a document. Without a schema definition the types with the names of
the operations are the roots; the specified directives come after those of the document. -/
def build (doc : Document Unit) : Except BuildError Schema := do
  let s ← empty.add doc
  let hasDefinition := !(parts doc).schemas.isEmpty
  let root := fun kind old =>
    if !hasDefinition && (s.type? (defaultRoot kind)).isSome then some (defaultRoot kind) else old
  let specified := Builtin.directives.filter fun d => (s.directive? d.name).isNone
  return placeBuiltins { s with
    directives := s.directives ++ specified
    query := root .query s.query
    mutation := root .mutation s.mutation
    subscription := root .subscription s.subscription }

end Schema
end Subgraph
