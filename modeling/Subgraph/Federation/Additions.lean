import Subgraph.Federation.Names
import Subgraph.Schema.Build

/-!
The definitions that the federation protocol adds to a schema, as a document and as its text.

The scalar for representations and the service type always come; the entity union only with
entities; the key set scalar and the directives only where the schema has none. The protocol
fields go to the query root, which is created if there is none.
-/

namespace Subgraph.Federation

def defaultQuery : String := "Query"

def serviceFieldDefinition : FieldDefinition Unit :=
  ⟨none, serviceField, [], .nonNull (.named serviceType), []⟩

/-- One representation or more, each of them given. -/
def representationsType : TypeRef := .nonNull (.list (.nonNull (.named anyScalar)))

def entitiesFieldDefinition : FieldDefinition Unit :=
  ⟨none, entitiesField, [⟨none, "representations", representationsType, none, []⟩],
   .nonNull (.list (.named entityUnion)), []⟩

def protocolFields (entities : List String) : List (FieldDefinition Unit) :=
  serviceFieldDefinition :: if entities.isEmpty then [] else [entitiesFieldDefinition]

def scalarDefinition (name : String) : Definition Unit := .type none ⟨(), name, [], .scalar⟩

def serviceDefinition : Definition Unit :=
  .type none ⟨(), serviceType, [], .object [] [⟨none, "sdl", [], .named "String", []⟩]⟩

def unionDefinition (entities : List String) : Definition Unit :=
  .type none ⟨(), entityUnion, [], .union entities⟩

def typeLocations : List String := ["OBJECT", "INTERFACE"]

def keyDefinition : Definition Unit :=
  .directive ⟨(), none, keyDirective,
    [⟨none, "fields", .nonNull (.named fieldSetScalar), none, []⟩], true, typeLocations⟩

def extendsDefinition : Definition Unit :=
  .directive ⟨(), none, extendsDirective, [], false, typeLocations⟩

def queryBody (name : String) (entities : List String) : TypeDefinition Unit :=
  ⟨(), name, [], .object [] (protocolFields entities)⟩

/-- What happens to the query root: it grows, and a type may have to become the root first. -/
def queryDefinitions (s : Schema) (entities : List String) : Document Unit :=
  match s.query with
  | some q => [.extendType (queryBody q entities)]
  | none =>
    [if s.isObject defaultQuery then .extendType (queryBody defaultQuery entities)
      else .type none (queryBody defaultQuery entities),
     .extendSchema ⟨(), [], [(.query, defaultQuery)]⟩]

def additions (s : Schema) (entities : List String) : Document Unit :=
  [scalarDefinition anyScalar, serviceDefinition]
    ++ (if entities.isEmpty then [] else [unionDefinition entities])
    ++ (if (s.type? fieldSetScalar).isNone then [scalarDefinition fieldSetScalar] else [])
    ++ (if (s.directive? keyDirective).isNone then [keyDefinition] else [])
    ++ (if (s.directive? extendsDirective).isNone then [extendsDefinition] else [])
    ++ queryDefinitions s entities

section Text

def inputText (v : InputDefinition Unit) : String := v.name ++ ": " ++ v.type.text

def argumentsText (as : List (InputDefinition Unit)) : String :=
  if as.isEmpty then "" else "(" ++ ", ".intercalate (as.map inputText) ++ ")"

def fieldText (f : FieldDefinition Unit) : String :=
  "  " ++ f.name ++ argumentsText f.arguments ++ ": " ++ f.type.text

def linesText (ls : List String) : String := braced ("\n" ++ "\n".intercalate ls ++ "\n")

def typeText (d : TypeDefinition Unit) : String :=
  match d.body with
  | .union ms => "union " ++ d.name ++ " = " ++ " | ".intercalate ms
  | .object _ fs => "type " ++ d.name ++ " " ++ linesText (fs.map fieldText)
  | _ => "scalar " ++ d.name

def rootText (o : OperationKind × String) : String := "  " ++ o.1.name ++ ": " ++ o.2

def definitionText : Definition Unit → String
  | .type _ d => typeText d
  | .extendType d => "extend " ++ typeText d
  | .extendSchema d => "extend schema " ++ linesText (d.operations.map rootText)
  | .directive d =>
    "directive @" ++ d.name ++ argumentsText d.arguments
      ++ (if d.repeatable then " repeatable" else "") ++ " on " ++ " | ".intercalate d.locations
  | _ => ""

end Text

def additionsText (s : Schema) (entities : List String) : String :=
  "\n\n".intercalate ((additions s entities).map definitionText)

end Subgraph.Federation
