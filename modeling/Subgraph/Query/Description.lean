import Subgraph.Query.Collect
import Subgraph.Query.Variables
import Subgraph.Value.Template

/-!
The description of a field that is executed: its name and where it stands in the operation, in the
schema and in the answer, with what the request gives.
-/

namespace Subgraph

/-- The steps to a place in an answer; one to a field has the name of the type that it is a field
of. -/
abbrev Trail := List (PathStep × Option String)

namespace Trail

def path (t : Trail) : Path := t.map (·.1)

def text (s? : Option String) : Described :=
  .value (match s? with
    | some s => .text s
    | none => .null)

/-- A trail from its last step back. -/
def described (t : Trail) : Described :=
  t.foldl (fun before (step, owner) =>
    let key : Value := match step with
      | .key n => .text n
      | .index n => .int n
    .row "Path" [("prev", before), ("key", .value key), ("typename", text owner)]) (.value .null)

end Trail

namespace Description

/-- A thing that shows as its description. -/
def plainThing (kind : String) (attributes : List (String × Described)) : Described :=
  .thing kind kind kind attributes

/-- A node of the document, which shows where it starts and ends if that is known. -/
def nodeThing (kind : String) (ends? : Option (Nat × Nat))
    (attributes : List (String × Described)) : Described :=
  let text := match ends? with
    | some (a, b) => kind ++ " at " ++ toString a ++ ":" ++ toString b
    | none => kind
  .thing kind text text attributes

/-- A name that starts at a place, if that is known. -/
def name (start? : Option Nat) (s? : Option String) : Described :=
  match s? with
  | some s =>
    nodeThing "NameNode" (start?.map fun a => (a, a + s.length))
      [("kind", .value (.text "name")), ("value", Trail.text s?)]
  | none => .value .null

/-- A node of a field. It ends with its name if nothing follows that. -/
def node (n : FieldNode) : Described :=
  let isBare := n.arguments.isEmpty && n.directives.isEmpty && n.selections.isEmpty
  let start? := if n.label?.isNone then some n.mark else none
  let ends? := if isBare then start?.map fun a => (a, a + n.name.length) else none
  nodeThing "FieldNode" ends?
    [("kind", .value (.text "field")), ("name", name start? n.name),
     ("alias", name (some n.mark) n.label?)]

/-- The kinds of types, as they are described. -/
def typeKind : TypeShape → String
  | .scalar _ => "GraphQLScalarType"
  | .object .. => "GraphQLObjectType"
  | .interface .. => "GraphQLInterfaceType"
  | .union _ => "GraphQLUnionType"
  | .enum _ => "GraphQLEnumType"
  | .input .. => "GraphQLInputObjectType"

def namedType (t : NamedType) : Described :=
  let kind := typeKind t.shape
  .thing kind t.name ("<" ++ kind ++ " '" ++ t.name ++ "'>")
    [("name", .value (.text t.name)), ("description", Trail.text t.description)]

/-- A type by its name in a schema. -/
def typeOf (s : Schema) (name : String) : Described :=
  match s.type? name with
  | some t => namedType t
  | none => .value .null

def typeRef (s : Schema) : TypeRef → Described
  | .named n => typeOf s n
  | .list t => around "GraphQLList" ("[" ++ t.text ++ "]") (typeRef s t)
  | .nonNull t => around "GraphQLNonNull" (t.text ++ "!") (typeRef s t)
where
  around (kind text : String) (d : Described) : Described :=
    .thing kind text ("<" ++ kind ++ " " ++ d.display ++ ">") [("of_type", d)]

def schema (s : Schema) : Described :=
  let root := fun k => (s.root k).elim (.value .null) (typeOf s)
  plainThing "GraphQLSchema" [("description", Trail.text s.description),
    ("query_type", root .query), ("mutation_type", root .mutation),
    ("subscription_type", root .subscription)]

def operationKind (k : OperationKind) : Described :=
  let upper := k.name.toUpper
  .thing "OperationType" ("OperationType." ++ upper)
    ("<OperationType." ++ upper ++ ": " ++ Text.display k.name ++ ">")
    [("name", .value (.text upper)), ("value", .value (.text k.name))]

def operation (o : Operation Nat) : Described :=
  plainThing "OperationDefinitionNode" [("kind", .value (.text "operation_definition")),
    ("operation", operationKind o.kind), ("name", name (o.name.map (·.1)) (o.name.map (·.2)))]

/-- The fragments by their names. -/
def fragments (fs : List (Fragment Nat)) : Described :=
  if fs.isEmpty then .value (.record []) else plainThing "dict" []

/-- The description of the field of some nodes, where an operation is executed on a root value. -/
def ofField (sc : Scope) (o : Operation Nat) (root context : Value) (parent : NamedType)
    (f : Field) (nodes : List FieldNode) (trail : Trail) : Described :=
  let s := sc.query.schema
  .row "GraphQLResolveInfo"
    [("field_name", .value (.text f.name)), ("field_nodes", .list (nodes.map node)),
     ("return_type", typeRef s f.type), ("parent_type", namedType parent),
     ("path", trail.described), ("schema", schema s), ("fragments", fragments sc.query.fragments),
     ("root_value", .value root), ("operation", operation o),
     ("variable_values", .value (.record sc.bindings)), ("context", .value context),
     ("is_awaitable", plainThing "function" [])]

end Description
end Subgraph
