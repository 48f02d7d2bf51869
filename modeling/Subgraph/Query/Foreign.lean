import Subgraph.Query.Arguments

/-!
Definitions of types, directives and schemas among operations. They cannot be executed; besides,
the types that they name have to be known and their directives have to be in place.
-/

namespace Subgraph.QueryContext
open Suggestion (Attempt)
variable (c : QueryContext)

/-- A type that a definition names; built-in ones are always known. -/
def namedIssues (name : String) : List (Attempt Issue) :=
  c.typeNameIssues standardNames 0 name

/-- The issues of directives that stand in the place of a definition. -/
def placedIssues (location : String) (ds : List (Directive Nat)) (inside : List (Attempt Issue)) :
    List (Attempt Issue) :=
  c.repeatedDirectiveIssues ds ++ inside ++ c.directivesIssues location ds

def inputIssues (location : String) (v : InputDefinition Nat) : List (Attempt Issue) :=
  c.placedIssues location v.directives (c.namedIssues v.type.base
    ++ (v.default?.map (Query.literalIssues c.schema true none)).getD [])

def fieldDefinitionIssues (f : FieldDefinition Nat) : List (Attempt Issue) :=
  c.placedIssues "FIELD_DEFINITION" f.directives
    (f.arguments.flatMap (c.inputIssues "ARGUMENT_DEFINITION") ++ c.namedIssues f.type.base)

def typeLocation : TypeBody Nat → String
  | .scalar => "SCALAR"
  | .object .. => "OBJECT"
  | .interface .. => "INTERFACE"
  | .union _ => "UNION"
  | .enum _ => "ENUM"
  | .input _ => "INPUT_OBJECT"

/-- What a type definition holds after its directives. -/
def bodyIssues (isExtension : Bool) : TypeBody Nat → List (Attempt Issue)
  | .scalar => []
  | .object _ fs => fs.flatMap c.fieldDefinitionIssues
  | .interface _ fs => fs.flatMap c.fieldDefinitionIssues
  | .union ms => ms.flatMap c.namedIssues
  | .enum vs => vs.flatMap fun v => c.placedIssues "ENUM_VALUE" v.directives []
  | .input fs => fs.flatMap
      (c.inputIssues (if isExtension then "ARGUMENT_DEFINITION" else "INPUT_FIELD_DEFINITION"))

def interfacesOf : TypeBody Nat → List String
  | .object is _ => is
  | .interface is _ => is
  | _ => []

/-- The directives of a type come together from its definition and its extensions. -/
def typeDefinitionIssues (isExtension : Bool) (earlier : List (Directive Nat))
    (d : TypeDefinition Nat) : List (Attempt Issue) :=
  (c.repeatedDirectiveIssues (earlier ++ d.directives)).drop
      (c.repeatedDirectiveIssues earlier).length
    ++ (interfacesOf d.body).flatMap c.namedIssues
    ++ c.directivesIssues (typeLocation d.body) d.directives
    ++ c.bodyIssues isExtension d.body

def schemaDefinitionIssues (earlier : List (Directive Nat)) (d : SchemaDefinition Nat) :
    List (Attempt Issue) :=
  (c.repeatedDirectiveIssues (earlier ++ d.directives)).drop
      (c.repeatedDirectiveIssues earlier).length
    ++ c.directivesIssues "SCHEMA" d.directives ++ d.operations.flatMap fun o => c.namedIssues o.2

def typeDirectives (name : String) (ds : List (Definition Nat)) : List (Directive Nat) :=
  ds.flatMap fun
    | .type _ d => if d.name = name then d.directives else []
    | .extendType d => if d.name = name then d.directives else []
    | _ => []

def schemaDirectives (ds : List (Definition Nat)) : List (Directive Nat) :=
  ds.flatMap fun
    | .schema _ d => d.directives
    | .extendSchema d => d.directives
    | _ => []

/-- The issues of a definition that is neither an operation nor a fragment. -/
def foreignIssues (earlier : List (Definition Nat)) : Definition Nat → List (Attempt Issue)
  | .type _ d => c.typeDefinitionIssues false (typeDirectives d.name earlier) d
  | .extendType d => c.typeDefinitionIssues true (typeDirectives d.name earlier) d
  | .schema _ d => c.schemaDefinitionIssues (schemaDirectives earlier) d
  | .extendSchema d => c.schemaDefinitionIssues (schemaDirectives earlier) d
  | .directive d => d.arguments.flatMap (c.inputIssues "ARGUMENT_DEFINITION")
  | _ => []

end Subgraph.QueryContext
