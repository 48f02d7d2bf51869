import Subgraph.Query.Site
import Subgraph.Schema.Printer

/-!
Asking a schema about itself.

`Source` is what a selection is made from: a value, or a part of the schema. `introspect` gives
the fields of the parts.
-/

namespace Subgraph

inductive Source where
  | data (v : Value)
  | schema
  | type (t : TypeRef)
  | field (f : Field)
  | input (v : InputValue)
  | enumValue (v : EnumValue)
  | directive (d : DirectiveType)
  | several (xs : List Source)
  deriving Inhabited

namespace Source

def text (s : String) : Source := .data (.text s)

def optionalText (s : Option String) : Source := (s.map text).getD (.data .null)

def truth (b : Bool) : Source := .data (.bool b)

def absent : Source := .data .null

def names (ns : List String) : Source := .several (ns.map fun n => .type (.named n))

def isNull : Source → Bool
  | .data v => v.isNull
  | _ => false

/-- The items of a list. -/
def items? : Source → Option (List Source)
  | .data (.list xs) => some (xs.map .data)
  | .several xs => some xs
  | _ => none

def value : Source → Value
  | .data v => v
  | _ => .null

end Source

namespace Introspection
variable (s : Schema)

def kindOf : TypeShape → String
  | .scalar _ => "SCALAR"
  | .object .. => "OBJECT"
  | .interface .. => "INTERFACE"
  | .union _ => "UNION"
  | .enum _ => "ENUM"
  | .input .. => "INPUT_OBJECT"

/-- Whether an item is shown: those that are deprecated only on demand. -/
def isShown (all : Bool) (deprecation : Option String) : Bool := all || deprecation.isNone

def includesDeprecated (arguments : Entries Value) : Bool :=
  match Entries.get? arguments "includeDeprecated" with
  | some v => v.isTruthy
  | none => false

def inputs (all : Bool) (vs : List InputValue) : Source :=
  .several ((vs.filter fun v => isShown all v.deprecation).map .input)

def schemaField (name : String) : Source :=
  match name with
  | "description" => .optionalText s.description
  | "types" => .names (s.types.map (·.name))
  | "queryType" => (s.query.map fun n => .type (.named n)).getD .absent
  | "mutationType" => (s.mutation.map fun n => .type (.named n)).getD .absent
  | "subscriptionType" => (s.subscription.map fun n => .type (.named n)).getD .absent
  | "directives" => .several (s.directives.map .directive)
  | _ => .absent

def namedTypeField (t : NamedType) (all : Bool) (name : String) : Source :=
  match name, t.shape with
  | "kind", shape => .text (kindOf shape)
  | "name", _ => .text t.name
  | "description", _ => .optionalText t.description
  | "specifiedByURL", .scalar url => .optionalText url
  | "fields", .object _ fs => .several ((fs.filter fun f => isShown all f.deprecation).map .field)
  | "fields", .interface _ fs =>
    .several ((fs.filter fun f => isShown all f.deprecation).map .field)
  | "interfaces", .object is _ => .names is
  | "interfaces", .interface is _ => .names is
  | "possibleTypes", shape =>
    if shape.isAbstract then .names (s.possibleTypes t.name) else .absent
  | "enumValues", .enum vs =>
    .several ((vs.filter fun v => isShown all v.deprecation).map .enumValue)
  | "inputFields", .input _ fs => inputs all fs
  | "isOneOf", .input oneOf _ => .truth oneOf
  | _, _ => .absent

def typeField (t : TypeRef) (all : Bool) (name : String) : Source :=
  match t with
  | .named n =>
    match s.type? n with
    | some t => namedTypeField s t all name
    | none => .absent
  | .list u =>
    match name with
    | "kind" => .text "LIST"
    | "ofType" => .type u
    | _ => .absent
  | .nonNull u =>
    match name with
    | "kind" => .text "NON_NULL"
    | "ofType" => .type u
    | _ => .absent

def fieldField (f : Field) (all : Bool) (name : String) : Source :=
  match name with
  | "name" => .text f.name
  | "description" => .optionalText f.description
  | "args" => inputs all f.arguments
  | "type" => .type f.type
  | "isDeprecated" => .truth f.deprecation.isSome
  | "deprecationReason" => .optionalText f.deprecation
  | _ => .absent

def writtenDefault (v : InputValue) : Source :=
  match s.unwritableDefault? v with
  | some e => .data (.failure ⟨"TypeError", e.message⟩)
  | none => .optionalText (((v.default s).bind fun d => d.literal? s v.type).map Literal.print)

def inputField (v : InputValue) (name : String) : Source :=
  match name with
  | "name" => .text v.name
  | "description" => .optionalText v.description
  | "type" => .type v.type
  | "defaultValue" => writtenDefault s v
  | "isDeprecated" => .truth v.deprecation.isSome
  | "deprecationReason" => .optionalText v.deprecation
  | _ => .absent

def enumValueField (v : EnumValue) (name : String) : Source :=
  match name with
  | "name" => .text v.name
  | "description" => .optionalText v.description
  | "isDeprecated" => .truth v.deprecation.isSome
  | "deprecationReason" => .optionalText v.deprecation
  | _ => .absent

/-- Directives are never deprecated. -/
def directiveField (d : DirectiveType) (all : Bool) (name : String) : Source :=
  match name with
  | "name" => .text d.name
  | "description" => .optionalText d.description
  | "isRepeatable" => .truth d.repeatable
  | "locations" => .several (d.locations.map .text)
  | "args" => inputs all d.arguments
  | "isDeprecated" => .truth false
  | _ => .absent

/-- A field of a part of the schema; none where the source is a value. -/
def introspect (source : Source) (name : String) (arguments : Entries Value) : Option Source :=
  let all := includesDeprecated arguments
  match source with
  | .schema => some (schemaField s name)
  | .type t => some (typeField s t all name)
  | .field f => some (fieldField f all name)
  | .input v => some (inputField s v name)
  | .enumValue v => some (enumValueField v name)
  | .directive d => some (directiveField d all name)
  | _ => none

/-- The type that a query asks for by name. -/
def typeByName (arguments : Entries Value) : Source :=
  match Entries.get? arguments "name" with
  | some (.text n) => if (s.type? n).isSome then .type (.named n) else .absent
  | _ => .absent

end Introspection
end Subgraph
