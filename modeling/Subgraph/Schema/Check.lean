import Subgraph.Schema.Coercion
import Subgraph.Text.Display

/-!
When a schema that could be built makes sense as a whole.

`Schema.problems` lists what is wrong: the query root first, then directives, then the types in
order.
-/

namespace Subgraph

namespace TypeRef

/-- Whether every value of a type is one of another type. -/
def isSubTypeOf (s : Schema) : TypeRef → TypeRef → Bool
  | .nonNull a, .nonNull b => isSubTypeOf s a b
  | _, .nonNull _ => false
  | .nonNull a, b => isSubTypeOf s a b
  | .list a, .list b => isSubTypeOf s a b
  | .named a, .named b => a == b || s.isSubType b a
  | _, _ => false

theorem isSubTypeOf_refl (s : Schema) (t : TypeRef) : isSubTypeOf s t t = true := by
  induction t with
  | named n => simp [isSubTypeOf]
  | list t ih => simpa [isSubTypeOf] using ih
  | nonNull t ih => simpa [isSubTypeOf] using ih

end TypeRef

namespace Schema
variable (s : Schema)

def nameProblems (name : String) : List String :=
  if name.startsWith "__" then
    ["Name " ++ Text.display name
      ++ " must not begin with '__', which is reserved by GraphQL introspection."]
  else []

def deprecationProblems (place : String) (v : InputValue) : List String :=
  if v.isRequired s && v.deprecation.isSome then
    ["Required " ++ place ++ " cannot be deprecated."]
  else []

def argumentProblems (owner : String) (v : InputValue) : List String :=
  nameProblems v.name ++ s.deprecationProblems ("argument " ++ owner ++ "(" ++ v.name ++ ":)") v

def fieldProblems (t : NamedType) : List String :=
  (if t.shape.fields.isEmpty then ["Type " ++ t.name ++ " must define one or more fields."] else [])
    ++ t.shape.fields.flatMap fun f =>
      nameProblems f.name ++ f.arguments.flatMap (s.argumentProblems (t.name ++ "." ++ f.name))

/-- A type has to implement what its interfaces implement. -/
def ancestorProblems (t i : NamedType) : List String :=
  (i.shape.interfaces.filter fun n => !t.shape.interfaces.contains n).map fun n =>
    if n = t.name then
      "Type " ++ t.name ++ " cannot implement " ++ i.name
        ++ " because it would create a circular reference."
    else
      "Type " ++ t.name ++ " must implement " ++ n ++ " because it is implemented by "
        ++ i.name ++ "."

def givenArgumentProblems (place other : String) (g : Field) (a : InputValue) : List String :=
  match g.argument? a.name with
  | none =>
    ["Interface field argument " ++ place ++ "(" ++ a.name ++ ":) expected but " ++ other
      ++ " does not provide it."]
  | some b =>
    if a.type = b.type then []
    else ["Interface field argument " ++ place ++ "(" ++ a.name ++ ":) expects type "
      ++ a.type.text ++ " but " ++ other ++ "(" ++ a.name ++ ":) is type " ++ b.type.text ++ "."]

def extraArgumentProblems (place other : String) (f : Field) (b : InputValue) : List String :=
  if (f.argument? b.name).isNone && b.isRequired s then
    ["Object field " ++ other ++ " includes required argument " ++ b.name
      ++ " that is missing from the Interface field " ++ place ++ "."]
  else []

/-- What a type lacks of a field of an interface. -/
def implementationProblems (t i : NamedType) (f : Field) : List String :=
  let place := i.name ++ "." ++ f.name
  let other := t.name ++ "." ++ f.name
  match t.field? f.name with
  | none => ["Interface field " ++ place ++ " expected but " ++ t.name ++ " does not provide it."]
  | some g =>
    (if g.type.isSubTypeOf s f.type then []
      else ["Interface field " ++ place ++ " expects type " ++ f.type.text ++ " but " ++ other
        ++ " is type " ++ g.type.text ++ "."])
      ++ f.arguments.flatMap (givenArgumentProblems place other g)
      ++ g.arguments.flatMap (s.extraArgumentProblems place other f)

def interfaceProblems (t : NamedType) (seen : List String) : List String → List String
  | [] => []
  | n :: ns =>
    let circular := if n = t.name then
        ["Type " ++ t.name ++ " cannot implement itself because it would create a circular "
          ++ "reference."]
      else []
    if seen.contains n then
      circular ++ ("Type " ++ t.name ++ " can only implement " ++ n ++ " once.")
        :: interfaceProblems t seen ns
    else
      let own := match s.type? n with
        | some i => ancestorProblems t i
            ++ i.shape.fields.flatMap (s.implementationProblems t i)
        | none => []
      circular ++ own ++ interfaceProblems t (n :: seen) ns

def memberProblems (t : NamedType) (seen : List String) : List String → List String
  | [] => []
  | n :: ns =>
    if seen.contains n then
      ("Union type " ++ t.name ++ " can only include type " ++ n ++ " once.")
        :: memberProblems t seen ns
    else memberProblems t (n :: seen) ns

def inputFieldProblems (t : NamedType) (oneOf : Bool) (v : InputValue) : List String :=
  let place := t.name ++ "." ++ v.name
  nameProblems v.name ++ s.deprecationProblems ("input field " ++ place) v
    ++ if oneOf then
        (if v.type.isNonNull then ["OneOf input field " ++ place ++ " must be nullable."] else [])
          ++ (if (v.default s).isSome then
              ["OneOf input field " ++ place ++ " cannot have a default value."] else [])
      else []

/-- The input types on the way to a type, with the fields that lead from each to the next. -/
abbrev InputPath := List (String × String)

/-- The input type that a field requires a value of. -/
def requiredInput? (v : InputValue) : Option NamedType :=
  match v.type with
  | .nonNull (.named n) =>
    match s.type? n with
    | some t => match t.shape with
      | .input .. => some t
      | _ => none
    | none => none
  | _ => none

def circularProblem (name : String) (fields : List String) : String :=
  "Cannot reference Input Object '" ++ name
    ++ "' within itself through a series of non-null fields: '" ++ ".".intercalate fields ++ "'."

/-- Follows required input fields from a type. `path` leads to the type, and each type is
entered once. -/
def followInputs : Nat → InputPath → NamedType → List String × List String →
    List String × List String
  | 0, _, _, acc => acc
  | fuel + 1, path, t, (visited, problems) =>
    if visited.contains t.name then (visited, problems)
    else
      let fields := match t.shape with
        | .input _ fs => fs
        | _ => []
      fields.foldl (fun acc f =>
        match s.requiredInput? f with
        | none => acc
        | some next =>
          let path := path ++ [(t.name, f.name)]
          match path.dropWhile (·.1 != next.name) with
          | [] => followInputs fuel path next acc
          | cycle => (acc.1, acc.2 ++ [circularProblem next.name (cycle.map (·.2))]))
        (t.name :: visited, problems)

def typeProblems (t : NamedType) : List String :=
  (if introspectionNames.contains t.name then [] else nameProblems t.name) ++
  match t.shape with
  | .scalar _ => []
  | .object is _ => s.fieldProblems t ++ s.interfaceProblems t [] is
  | .interface is _ => s.fieldProblems t ++ s.interfaceProblems t [] is
  | .union ms =>
    (if ms.isEmpty then
      ["Union type " ++ t.name ++ " must define one or more member types."] else [])
      ++ memberProblems t [] ms
  | .enum vs =>
    (if vs.isEmpty then ["Enum type " ++ t.name ++ " must define one or more values."] else [])
      ++ vs.flatMap fun v => nameProblems v.name
  | .input oneOf fs =>
    (if fs.isEmpty then
      ["Input Object type " ++ t.name ++ " must define one or more fields."] else [])
      ++ fs.flatMap (s.inputFieldProblems t oneOf)

/-- The problems of the types in order; `visited` are the input types that were entered. -/
def typesProblems (visited : List String) : List NamedType → List String
  | [] => []
  | t :: ts =>
    match t.shape with
    | .input .. =>
      let (visited, circular) := s.followInputs (s.types.length + 1) [] t (visited, [])
      s.typeProblems t ++ circular ++ typesProblems visited ts
    | _ => s.typeProblems t ++ typesProblems visited ts

def directiveProblems (d : DirectiveType) : List String :=
  nameProblems d.name ++ d.arguments.flatMap fun a =>
    nameProblems a.name
      ++ s.deprecationProblems ("argument @" ++ d.name ++ "(" ++ a.name ++ ":)") a

def rootProblems : List String :=
  let wrong := fun (label ending : String) (name : String) =>
    if s.isObject name then []
    else [label ++ " root type must be Object type" ++ ending ++ ", it cannot be " ++ name ++ "."]
  (match s.query with
    | none => ["Query root type must be provided."]
    | some n => wrong "Query" "" n)
    ++ s.mutation.toList.flatMap (wrong "Mutation" " if provided")
    ++ s.subscription.toList.flatMap (wrong "Subscription" " if provided")

def problems : List String :=
  s.rootProblems ++ s.directives.flatMap s.directiveProblems ++ s.typesProblems [] s.types

end Schema
end Subgraph
