import Subgraph.Query.Description
import Subgraph.Query.Exec
import Subgraph.Query.Introspection
import Subgraph.Query.Validate
import Subgraph.Service
import Subgraph.Value.Members

/-!
Executing an operation on a service.

Fields with one response key are collected and answered together. A value is completed by the
type of its field: lists item by item, scalars and enums as they are written, objects by their
selections, and values of abstract types as objects of the type that they turn out to have.
-/

namespace Subgraph

/-- What stays the same throughout an execution. -/
structure Env extends Scope where
  service : Service
  operation : Operation Nat
  context : Value
  root : Value
  /-- Whether answers that come later can be waited for. -/
  waits : Bool

namespace Env
variable (env : Env)

def schema : Schema := env.service.schema

/-- The object types that say of a value that it is theirs. -/
def recognisedBy (accepts : Value → Bool) (abstract : String) (v : Value) : Option String :=
  (env.schema.possibleTypes abstract).find? fun n =>
    (env.service.typeCheck? n).any fun check => accepts (check v)

def isTrue : Value → Bool
  | .bool b => b
  | _ => false

/-- The type of a tagged value: its tag, or a type that recognises it. -/
def entityType (abstract : String) (v : Value) : Option String :=
  match v.member? Federation.typenameKey with
  | some .null => env.recognisedBy isTrue abstract v
  | some t => some t.plain
  | none => env.recognisedBy isTrue abstract v

/-- The names under which an object keeps its type to itself. -/
def privateTypenameKeys : List String := ["_Entity__typename", "_object__typename"]

/-- What a value holds as the name of its type. -/
def heldTypename? (v : Value) : Option Value :=
  match v with
  | .record es => Entries.get? es Federation.typenameKey
  | .object _ as => (privateTypenameKeys.filterMap (Entries.get? as)).find? Value.isTruthy
  | _ => none

/-- The type of a value that nothing tags: the name it holds, or a type that recognises it. -/
def plainType (abstract : String) (v : Value) : Option String :=
  match heldTypename? v with
  | some (.text t) => some t
  | _ => env.recognisedBy Value.isTruthy abstract v

def runtimeType (abstract : String) (v : Value) : Option String :=
  if env.service.taggedTypes.contains abstract then env.entityType abstract v
  else env.plainType abstract v

/-- The object type of a value of an abstract type. -/
def objectType (place abstract : String) (v : Value) : Except String NamedType :=
  let what := "Abstract type '" ++ abstract ++ "' "
  match env.runtimeType abstract v with
  | none => .error (what ++ "must resolve to an Object type at runtime for field '" ++ place
      ++ "'. Either the '" ++ abstract ++ "' type should provide a 'resolve_type' function or each "
      ++ "possible type should provide an 'is_type_of' function.")
  | some n =>
    match env.schema.type? n with
    | none => .error (what ++ "was resolved to a type '" ++ n
        ++ "' that does not exist inside the schema.")
    | some t =>
      if !t.shape.isObject then .error (what ++ "was resolved to a non-object type '" ++ n ++ "'.")
      else if env.schema.isSubType abstract n then .ok t
      else .error ("Runtime Object type '" ++ n ++ "' is not a possible type for '" ++ abstract
        ++ "'.")

/-- Fails if a type can tell its values and does not recognise this one. -/
def checkType (t : NamedType) (source : Source) : Exec Unit :=
  let v := source.value
  match env.service.typeCheck? t.name with
  | some check =>
    if (check v).isTruthy then Exec.pure ()
    else Exec.ofExcept (.error ("Expected value of type '" ++ t.name ++ "' but got: " ++ v.inspect
      ++ "."))
  | none => Exec.pure ()

/-- Completes a value at a named type. -/
def completeNamed (place : String) (sub : NamedType → Source → Exec Value) (name : String)
    (source : Source) : Exec Value :=
  match env.schema.type? name with
  | none => Exec.pure .null
  | some t =>
    match t.shape with
    | .scalar _ => Exec.ofExcept (Leaf.serializeScalar name source.value)
    | .enum vs => Exec.ofExcept (Leaf.serializeEnum name vs source.value)
    | .object .. => sub t source
    | _ =>
      match env.objectType place name source.value with
      | .ok u => sub u source
      | .error m => Exec.ofExcept (.error m)

/-- The items of a list, each settled on its own where null is allowed. -/
def completeItems (positions : List Nat) (t : TypeRef) (item : Source → Trail → Exec Value)
    (trail : Trail) (index : Nat) : List Source → Exec (List Value)
  | [] => Exec.pure []
  | x :: xs => do
    let here := trail ++ [(.index index, none)]
    let v ← Exec.settle t (Exec.located positions here.path (item x here))
    return v :: (← completeItems positions t item trail (index + 1) xs)

/-- Completes a value at a type. -/
def complete (place : String) (positions : List Nat)
    (sub : NamedType → Source → Trail → Exec Value) : TypeRef → Source → Trail → Exec Value
  | .nonNull t, source, trail => do
    let v ← complete place positions sub t source trail
    match v with
    | .null =>
      Exec.ofExcept (.error ("Cannot return null for non-nullable field " ++ place ++ "."))
    | v => return v
  | .list t, source, trail =>
    match source with
    | .data (.failure f) => Exec.ofExcept (.error f.message)
    | source =>
      if source.isNull then Exec.pure .null
      else match source.items? with
        | some xs => do
          return .list (← Exec.together
            (completeItems positions t (complete place positions sub t) trail 0 xs))
        | none => Exec.ofExcept (.error ("Expected Iterable, but did not find one for field '"
            ++ place ++ "'."))
  | .named n, source, trail =>
    match source with
    | .data (.failure f) => Exec.ofExcept (.error f.message)
    | source =>
      if source.isNull then Exec.pure .null
      else env.completeNamed place (fun t x => sub t x trail) n source

/-- Resolves the representations that a field is given, and completes the entities. -/
def entities (c : Federation.Classification) (parent place : String) (arguments : Entries Value)
    (complete : Source → Exec Value) : Exec Value := do
  let reps := match Entries.get? arguments "representations" with
    | some (.list xs) => xs
    | _ => []
  let request : Federation.Request := ⟨env.context, Federation.entitiesField, parent⟩
  let x := Federation.resolve env.schema c request (← Exec.calls) reps
  Exec.note ⟨[], [], x.records, Federation.countedCalls x.calls⟩
  if x.isPending && !env.waits then
    Exec.ofExcept (.error ("Expected Iterable, but did not find one for field '" ++ place ++ "'."))
  else match x.values with
    | .error f => Exec.ofExcept (.error f.message)
    | .ok vs =>
      let completed := complete (.data (.list vs))
      if x.isPending then Exec.afterwards x.slots completed else completed

/-- Answers a field and completes what comes of it. -/
def resolveField (parent : NamedType) (source : Source) (f : Field) (arguments : Entries Value)
    (describe : Unit → Described) (complete : Source → Exec Value) : Exec Value :=
  let data := fun v => complete (.data v)
  match f.name with
  | "__typename" => data (.text parent.name)
  | "__schema" => complete .schema
  | "__type" => complete (Introspection.typeByName env.schema arguments)
  | name =>
    match Introspection.introspect env.schema source name arguments with
    | some x => complete x
    | none =>
      match env.service.resolver? parent.name name with
      | some (.custom answer) =>
        match answer ⟨source.value, arguments, env.context, env.root⟩ with
        | .ok v => data v
        | .error e => Exec.ofExcept (.error e.message)
      | some (.sdl text) => data (.record [("sdl", .text text)])
      | some (.entities c) =>
        env.entities c parent.name (parent.name ++ "." ++ name) arguments complete
      | none =>
        match source.value.answer name describe arguments with
        | .ok v => data v
        | .error e => Exec.ofExcept (.error e)

/-- Executes the fields of one response key; none for a field that the type does not have. -/
def executeField (sub : List FieldNode → NamedType → Source → Trail → Exec Value)
    (parent : NamedType) (source : Source) (trail : Trail) (key : String) (nodes : List FieldNode) :
    Exec (Option Value) :=
  match nodes with
  | [] => Exec.pure none
  | node :: _ =>
    match env.schema.fieldOf? parent node.name with
    | none => Exec.pure none
    | some f =>
      let trail := trail ++ [(.key key, some parent.name)]
      let positions := nodes.map (·.mark)
      let place := parent.name ++ "." ++ node.name
      some <$> Exec.settle f.type (Exec.located positions trail.path do
        let arguments ← Exec.ofScope (env.argumentValues node.arguments f.arguments)
        let describe := fun _ =>
          Description.ofField env.toScope env.operation env.root env.context parent f nodes trail
        env.resolveField parent source f arguments describe fun x =>
          env.complete place positions (sub nodes) f.type x trail)

/-- Executes groups of fields in order. -/
def executeGroups (sub : List FieldNode → NamedType → Source → Trail → Exec Value)
    (parent : NamedType) (source : Source) (trail : Trail) : FieldGroups → Exec (Entries Value)
  | [] => Exec.pure []
  | (key, nodes) :: r => do
    let v? ← env.executeField sub parent source trail key nodes
    let rest ← executeGroups sub parent source trail r
    return match v? with
      | some v => (key, v) :: rest
      | none => rest

/-- Executes what several fields select from an object, which has to be of its type. -/
def executeBelow : Nat → List FieldNode → NamedType → Source → Trail → Exec Value
  | 0, _, _, _, _ => Exec.pure .null
  | fuel + 1, nodes, type, source, trail => do
    let groups ← Exec.ofScope (env.fieldsBelow type nodes)
    env.checkType type source
    return .record
      (← Exec.together (env.executeGroups (executeBelow fuel) type source trail groups))

def operationMissing (o : Operation Nat) : QueryError :=
  ⟨[o.mark], none, "Schema is not configured to execute " ++ o.kind.name ++ " operation."⟩

/-- Executes an operation. The fields of a mutation are waited for one after another. -/
def executeOperation (o : Operation Nat) : Exec Value :=
  match (env.schema.root o.kind).bind env.schema.type? with
  | none => Exec.fail (operationMissing o)
  | some t => do
    let groups ← Exec.ofScope (env.fieldsOf t o.selections)
    let below := env.executeBelow env.query.topDepth
    let fields := env.executeGroups below t (.data env.root) [] groups
    return .record (← if o.kind == .mutation then fields else Exec.together fields)

end Env
end Subgraph
