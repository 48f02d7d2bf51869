import Subgraph.Schema.Basic

/-!
What every schema has without defining it: the built-in scalars, the types of introspection
and the specified directives.
-/

namespace Subgraph.Builtin

def input (name : String) (type : TypeRef) (description : String)
    (default? : Option Constant) : InputValue :=
  ⟨some description, name, type, default?.map .written, none, []⟩

def includeDeprecated : InputValue :=
  ⟨none, "includeDeprecated", .named "Boolean", some (.written (.bool () false)), none, []⟩

def field (name : String) (type : TypeRef) : Field := ⟨none, name, [], type, none, []⟩

def filtered (name : String) (type : TypeRef) : Field :=
  ⟨none, name, [includeDeprecated], type, none, []⟩

def required (name : String) : TypeRef := .nonNull (.named name)
def several (name : String) : TypeRef := .list (required name)

def scalar (name description : String) : NamedType := ⟨some description, name, .scalar none, []⟩

/-- A reference to a page in a description. -/
def link (title page : String) : String := "[" ++ title ++ "](https:" ++ "//" ++ page ++ ")"

def scalars : List NamedType :=
  [scalar "String" ("The `String` scalar type represents textual data, represented as UTF-8 "
      ++ "character sequences. The String type is most often used by GraphQL to represent "
      ++ "free-form human-readable text."),
   scalar "Int" ("The `Int` scalar type represents non-fractional signed whole numeric values. "
      ++ "Int can represent values between -(2^31) and 2^31 - 1."),
   scalar "Float" ("The `Float` scalar type represents signed double-precision fractional values "
      ++ "as specified by " ++ link "IEEE 754" "en.wikipedia.org/wiki/IEEE_floating_point" ++ "."),
   scalar "Boolean" "The `Boolean` scalar type represents `true` or `false`.",
   scalar "ID" ("The `ID` scalar type represents a unique identifier, often used to refetch an "
      ++ "object or as key for a cache. The ID type appears in a JSON response as a String; "
      ++ "however, it is not intended to be human-readable. When expected as an input type, any "
      ++ "string (such as `\"4\"`) or integer (such as `4`) input value will be accepted as an "
      ++ "ID.")]

def object (name description : String) (fields : List Field) : NamedType :=
  ⟨some description, name, .object [] fields, []⟩

def value (name description : String) : EnumValue := ⟨some description, name, none, []⟩

def schemaType : NamedType :=
  object "__Schema" ("A GraphQL Schema defines the capabilities of a GraphQL server. It exposes "
      ++ "all available types and directives on the server, as well as the entry points for "
      ++ "query, mutation, and subscription operations.")
    [field "description" (.named "String"),
     ⟨some "A list of all types supported by this server.", "types", [],
      .nonNull (several "__Type"), none, []⟩,
     ⟨some "The type that query operations will be rooted at.", "queryType", [],
      required "__Type", none, []⟩,
     ⟨some ("If this server supports mutation, the type that mutation operations will be rooted "
        ++ "at."), "mutationType", [], .named "__Type", none, []⟩,
     ⟨some ("If this server supports subscription, the type that subscription operations will be "
        ++ "rooted at."), "subscriptionType", [], .named "__Type", none, []⟩,
     ⟨some "A list of all directives supported by this server.", "directives",
      [⟨none, "includeDeprecated", required "Boolean", some (.written (.bool () false)), none, []⟩],
      .nonNull (several "__Directive"), none, []⟩]

def directiveType : NamedType :=
  object "__Directive" ("A Directive provides a way to describe alternate runtime execution and "
      ++ "type validation behavior in a GraphQL document.\n\nIn some cases, you need to provide "
      ++ "options to alter GraphQL's execution behavior in ways field arguments will not suffice, "
      ++ "such as conditionally including or skipping a field. Directives provide this by "
      ++ "describing additional information to the executor.")
    [field "name" (required "String"),
     field "description" (.named "String"),
     field "isRepeatable" (required "Boolean"),
     field "locations" (.nonNull (several "__DirectiveLocation")),
     filtered "args" (.nonNull (several "__InputValue")),
     field "isDeprecated" (required "Boolean"),
     field "deprecationReason" (.named "String")]

def locationType : NamedType :=
  ⟨some ("A Directive can be adjacent to many parts of the GraphQL language, a "
      ++ "__DirectiveLocation describes one such possible adjacencies."),
   "__DirectiveLocation",
   .enum
    [value "QUERY" "Location adjacent to a query operation.",
     value "MUTATION" "Location adjacent to a mutation operation.",
     value "SUBSCRIPTION" "Location adjacent to a subscription operation.",
     value "FIELD" "Location adjacent to a field.",
     value "FRAGMENT_DEFINITION" "Location adjacent to a fragment definition.",
     value "FRAGMENT_SPREAD" "Location adjacent to a fragment spread.",
     value "INLINE_FRAGMENT" "Location adjacent to an inline fragment.",
     value "VARIABLE_DEFINITION" "Location adjacent to a variable definition.",
     value "SCHEMA" "Location adjacent to a schema definition.",
     value "SCALAR" "Location adjacent to a scalar definition.",
     value "OBJECT" "Location adjacent to an object type definition.",
     value "FIELD_DEFINITION" "Location adjacent to a field definition.",
     value "ARGUMENT_DEFINITION" "Location adjacent to an argument definition.",
     value "INTERFACE" "Location adjacent to an interface definition.",
     value "UNION" "Location adjacent to a union definition.",
     value "ENUM" "Location adjacent to an enum definition.",
     value "ENUM_VALUE" "Location adjacent to an enum value definition.",
     value "INPUT_OBJECT" "Location adjacent to an input object type definition.",
     value "INPUT_FIELD_DEFINITION" "Location adjacent to an input object field definition.",
     value "DIRECTIVE_DEFINITION" "Location adjacent to a directive definition."],
   []⟩

def typeType : NamedType :=
  object "__Type" ("The fundamental unit of any GraphQL Schema is the type. There are many kinds "
      ++ "of types in GraphQL as represented by the `__TypeKind` enum.\n\nDepending on the kind of "
      ++ "a type, certain fields describe information about that type. Scalar types provide no "
      ++ "information beyond a name, description and optional `specifiedByURL`, while Enum types "
      ++ "provide their values. Object and Interface types provide the fields they describe. "
      ++ "Abstract types, Union and Interface, provide the Object types possible at runtime. List "
      ++ "and NonNull types compose other types.")
    [field "kind" (required "__TypeKind"),
     field "name" (.named "String"),
     field "description" (.named "String"),
     field "specifiedByURL" (.named "String"),
     filtered "fields" (several "__Field"),
     field "interfaces" (several "__Type"),
     field "possibleTypes" (several "__Type"),
     filtered "enumValues" (several "__EnumValue"),
     filtered "inputFields" (several "__InputValue"),
     field "ofType" (.named "__Type"),
     field "isOneOf" (.named "Boolean")]

def fieldType : NamedType :=
  object "__Field" ("Object and Interface types are described by a list of Fields, each of which "
      ++ "has a name, potentially a list of arguments, and a return type.")
    [field "name" (required "String"),
     field "description" (.named "String"),
     filtered "args" (.nonNull (several "__InputValue")),
     field "type" (required "__Type"),
     field "isDeprecated" (required "Boolean"),
     field "deprecationReason" (.named "String")]

def inputValueType : NamedType :=
  object "__InputValue" ("Arguments provided to Fields or Directives and the input fields of an "
      ++ "InputObject are represented as Input Values which describe their type and optionally a "
      ++ "default value.")
    [field "name" (required "String"),
     field "description" (.named "String"),
     field "type" (required "__Type"),
     ⟨some "A GraphQL-formatted string representing the default value for this input value.",
      "defaultValue", [], .named "String", none, []⟩,
     field "isDeprecated" (required "Boolean"),
     field "deprecationReason" (.named "String")]

def enumValueType : NamedType :=
  object "__EnumValue" ("One possible value for a given Enum. Enum values are unique values, not a "
      ++ "placeholder for a string or numeric value. However an Enum value is returned in a JSON "
      ++ "response as a string.")
    [field "name" (required "String"),
     field "description" (.named "String"),
     field "isDeprecated" (required "Boolean"),
     field "deprecationReason" (.named "String")]

def kindType : NamedType :=
  ⟨some "An enum describing what kind of type a given `__Type` is.", "__TypeKind",
   .enum
    [value "SCALAR" "Indicates this type is a scalar.",
     value "OBJECT" "Indicates this type is an object. `fields` and `interfaces` are valid fields.",
     value "INTERFACE" ("Indicates this type is an interface. `fields`, `interfaces`, and "
        ++ "`possibleTypes` are valid fields."),
     value "UNION" "Indicates this type is a union. `possibleTypes` is a valid field.",
     value "ENUM" "Indicates this type is an enum. `enumValues` is a valid field.",
     value "INPUT_OBJECT" "Indicates this type is an input object. `inputFields` is a valid field.",
     value "LIST" "Indicates this type is a list. `ofType` is a valid field.",
     value "NON_NULL" "Indicates this type is a non-null. `ofType` is a valid field."],
   []⟩

def introspection : List NamedType :=
  [schemaType, directiveType, locationType, typeType, fieldType, inputValueType, enumValueType,
   kindType]

def type? (name : String) : Option NamedType :=
  (scalars ++ introspection).find? (·.name == name)

/-- A built-in type of this name. -/
def named (name : String) : NamedType := (type? name).getD default

def noReason : String := "No longer supported"

def directives : List DirectiveType :=
  [⟨some ("Directs the executor to include this field or fragment only when the `if` argument is "
      ++ "true."), "include", [input "if" (required "Boolean") "Included when true." none], false,
    ["FIELD", "FRAGMENT_SPREAD", "INLINE_FRAGMENT"]⟩,
   ⟨some "Directs the executor to skip this field or fragment when the `if` argument is true.",
    "skip", [input "if" (required "Boolean") "Skipped when true." none], false,
    ["FIELD", "FRAGMENT_SPREAD", "INLINE_FRAGMENT"]⟩,
   ⟨some "Marks an element of a GraphQL schema as no longer supported.", "deprecated",
    [input "reason" (.named "String") ("Explains why this element was deprecated, usually also "
      ++ "including a suggestion for how to access supported similar data. Formatted using the "
      ++ "Markdown syntax, as specified by " ++ link "CommonMark" "commonmark.org/" ++ ".")
      (some (.string () noReason false))], false,
    ["FIELD_DEFINITION", "ARGUMENT_DEFINITION", "INPUT_FIELD_DEFINITION", "ENUM_VALUE",
     "DIRECTIVE_DEFINITION"]⟩,
   ⟨some "Exposes a URL that specifies the behavior of this scalar.", "specifiedBy",
    [input "url" (required "String") "The URL that specifies the behavior of this scalar." none],
    false, ["SCALAR"]⟩,
   ⟨some "Indicates an Input Object is a OneOf Input Object.", "oneOf", [], false,
    ["INPUT_OBJECT"]⟩]

end Subgraph.Builtin
