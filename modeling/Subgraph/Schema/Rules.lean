import Subgraph.Schema.Builtin
import Subgraph.Schema.Suggestion

/-!
What a document has to keep before a schema is built from it.

`Document.visits` walks through a document and lists what it meets, and `Visit.faults` says what
is wrong at one place. The faults of a document are those of its visits in order.
-/

namespace Subgraph
open Suggestion (Attempt)

/-- What a walk meets. A definition comes with the definitions before it, a field of an object
literal with the names before it. -/
inductive Visit where
  | definition (earlier : List (Definition Unit)) (d : Definition Unit)
  | carrier (directives : List Applied)
  | typeName (name : String) (inDefinition : Bool)
  | directive (d : Applied) (location : String)
  | directiveEnd (d : Applied)
  | arguments (names : List String)
  | entry (earlier : List String) (name : String)

namespace Visit

mutual
def ofLiteral : Constant → List Visit
  | .list _ xs => ofItems xs
  | .object _ fs => ofEntries [] fs
  | _ => []
def ofItems : List Constant → List Visit
  | [] => []
  | x :: xs => ofLiteral x ++ ofItems xs
def ofEntries (earlier : List String) : List (Unit × String × Constant) → List Visit
  | [] => []
  | (_, n, v) :: r => .entry earlier n :: ofLiteral v ++ ofEntries (n :: earlier) r
end

def ofArguments (as : List (Argument Unit)) : List Visit := as.flatMap fun a => ofLiteral a.value

def ofDirective (location : String) (d : Applied) : List Visit :=
  .directive d location :: ofArguments d.arguments ++ [.directiveEnd d]

def ofDirectives (location : String) (ds : List Applied) : List Visit :=
  ds.flatMap (ofDirective location)

def ofInput (location : String) (v : InputDefinition Unit) : List Visit :=
  .carrier v.directives :: .typeName v.type.base true
    :: (v.default?.map ofLiteral).getD [] ++ ofDirectives location v.directives

def ofField (f : FieldDefinition Unit) : List Visit :=
  .carrier f.directives :: f.arguments.flatMap (ofInput "ARGUMENT_DEFINITION")
    ++ .typeName f.type.base true :: ofDirectives "FIELD_DEFINITION" f.directives

def ofEnumValue (v : EnumValueDefinition Unit) : List Visit :=
  .carrier v.directives :: ofDirectives "ENUM_VALUE" v.directives

def ofNames (names : List String) : List Visit := names.map (.typeName · true)

/-- An extension puts its input fields at the place of arguments. -/
def ofType (isExtension : Bool) (d : TypeDefinition Unit) : List Visit :=
  match d.body with
  | .scalar => ofDirectives "SCALAR" d.directives
  | .object is fs => ofNames is ++ ofDirectives "OBJECT" d.directives ++ fs.flatMap ofField
  | .interface is fs => ofNames is ++ ofDirectives "INTERFACE" d.directives ++ fs.flatMap ofField
  | .union ms => ofDirectives "UNION" d.directives ++ ofNames ms
  | .enum vs => ofDirectives "ENUM" d.directives ++ vs.flatMap ofEnumValue
  | .input fs =>
    ofDirectives "INPUT_OBJECT" d.directives ++
      fs.flatMap (ofInput (if isExtension then "ARGUMENT_DEFINITION" else "INPUT_FIELD_DEFINITION"))

def ofSchema (d : SchemaDefinition Unit) : List Visit :=
  ofDirectives "SCHEMA" d.directives ++ ofNames (d.operations.map (·.2))

mutual
def ofSelection : Selection Unit → List Visit
  | .field _ _ _ as ds _ ss =>
    .carrier ds :: .arguments (as.map (·.name)) :: ofArguments as ++ ofDirectives "FIELD" ds
      ++ ofSelections ss
  | .spread _ _ _ ds => .carrier ds :: ofDirectives "FRAGMENT_SPREAD" ds
  | .inline _ c ds ss =>
    .carrier ds :: (c.toList.map fun c => .typeName c.2 false)
      ++ ofDirectives "INLINE_FRAGMENT" ds ++ ofSelections ss
def ofSelections : List (Selection Unit) → List Visit
  | [] => []
  | s :: ss => ofSelection s ++ ofSelections ss
end

def ofVariable (v : VariableDefinition Unit) : List Visit :=
  .carrier v.directives :: .typeName v.type.base false
    :: (v.default?.map ofLiteral).getD [] ++ ofDirectives "VARIABLE_DEFINITION" v.directives

def ofOperation (o : Operation Unit) : List Visit :=
  .carrier o.directives :: o.variableDefinitions.flatMap ofVariable
    ++ ofDirectives (o.kind.name.toUpper) o.directives ++ ofSelections o.selections

def ofFragment (f : Fragment Unit) : List Visit :=
  .carrier f.directives :: .typeName f.condition false
    :: ofDirectives "FRAGMENT_DEFINITION" f.directives ++ ofSelections f.selections

def ofDefinition : Definition Unit → List Visit
  | .operation o => ofOperation o
  | .fragment f => ofFragment f
  | .schema _ d => ofSchema d
  | .extendSchema d => ofSchema d
  | .type _ d => ofType false d
  | .extendType d => ofType true d
  | .directive d => d.arguments.flatMap (ofInput "ARGUMENT_DEFINITION")

def ofDefinitions (earlier : List (Definition Unit)) : List (Definition Unit) → List Visit
  | [] => []
  | d :: ds => .definition earlier d :: ofDefinition d ++ ofDefinitions (d :: earlier) ds

end Visit

def Document.visits (doc : Document Unit) : List Visit := Visit.ofDefinitions [] doc

namespace Definition

/-- The definition or extension of a type. -/
def type? : Definition Unit → Option (TypeDefinition Unit)
  | .type _ d => some d
  | .extendType d => some d
  | _ => none

def schema? : Definition Unit → Option (SchemaDefinition Unit)
  | .schema _ d => some d
  | .extendSchema d => some d
  | _ => none

end Definition

namespace TypeBody

def enumValueNames : TypeBody Unit → List String
  | .enum vs => vs.map (·.name)
  | _ => []

def fieldNames : TypeBody Unit → List String
  | .object _ fs => fs.map (·.name)
  | .interface _ fs => fs.map (·.name)
  | .input fs => fs.map (·.name)
  | _ => []

def fields : TypeBody Unit → List (FieldDefinition Unit)
  | .object _ fs => fs
  | .interface _ fs => fs
  | _ => []

def kindName : TypeBody Unit → String
  | .scalar => "scalar"
  | .object .. => "object"
  | .interface .. => "interface"
  | .union _ => "union"
  | .enum _ => "enum"
  | .input _ => "input object"

end TypeBody

/-- The names that occur again, each once for every occurrence after the first. -/
def repeated (seen : List String) : List String → List String
  | [] => []
  | n :: ns => if seen.contains n then n :: repeated seen ns else repeated (n :: seen) ns

/-- The names that occur more than once, each once. -/
def doubled (names : List String) : List String :=
  names.eraseDups.filter fun n => 1 < names.count n

/-- A directive as far as its use is concerned. -/
structure KnownDirective where
  name : String
  repeatable : Bool
  locations : List String
  arguments : List String
  required : List (String × TypeRef)

namespace KnownDirective

def ofType (d : DirectiveType) : KnownDirective :=
  ⟨d.name, d.repeatable, d.locations, d.arguments.map (·.name),
   (d.arguments.filter fun a => a.type.isNonNull && a.default?.isNone).map fun a =>
     (a.name, a.type)⟩

def ofDefinition (d : DirectiveDefinition Unit) : KnownDirective :=
  ⟨d.name, d.repeatable, d.locations, d.arguments.map (·.name),
   Entries.ofPairs ((d.arguments.filter fun a => a.type.isNonNull && a.default?.isNone).map fun a =>
     (a.name, a.type))⟩

end KnownDirective

/-- What the rules look up in a document. -/
structure RuleContext where
  types : List (TypeDefinition Unit)
  directives : List KnownDirective

namespace RuleContext

def ofDocument (doc : Document Unit) : RuleContext where
  types := doc.filterMap fun
    | .type _ d => some d
    | _ => none
  directives := Builtin.directives.map .ofType ++ doc.filterMap fun
    | .directive d => some (.ofDefinition d)
    | _ => none

def directive? (c : RuleContext) (name : String) : Option KnownDirective :=
  c.directives.reverse.find? (·.name == name)

def typeNames (c : RuleContext) : List String := c.types.map (·.name)

def onlyOnce (c : RuleContext) (name : String) : Bool :=
  (c.directive? name).any (!·.repeatable)

end RuleContext

namespace Visit
variable (c : RuleContext)

def repeatedDirectives (seen : List Applied) (ds : List Applied) : List String :=
  (repeated (seen.map (·.name)) (ds.map (·.name))).filter c.onlyOnce |>.map fun n =>
    "The directive '@" ++ n ++ "' can only be used once at this location."

def argumentsFaults (owner : String) (as : List (InputDefinition Unit)) : List String :=
  (doubled (as.map (·.name))).map fun n =>
    "Argument '" ++ owner ++ "(" ++ n ++ ":)' can only be defined once."

/-- The definitions and extensions of the same type among earlier ones. -/
def sameType (earlier : List (Definition Unit)) (d : TypeDefinition Unit) :
    List (TypeDefinition Unit) :=
  (earlier.filterMap Definition.type?).filter (·.name == d.name)

def typeFaults (earlier : List (Definition Unit)) (d : TypeDefinition Unit) : List String :=
  let same := sameType earlier d
  let values := repeated (same.flatMap (·.body.enumValueNames)) d.body.enumValueNames
  let fields := repeated (same.flatMap (·.body.fieldNames)) d.body.fieldNames
  (values.map fun n => "Enum value '" ++ d.name ++ "." ++ n ++ "' can only be defined once.")
    ++ (fields.map fun n => "Field '" ++ d.name ++ "." ++ n ++ "' can only be defined once.")
    ++ (d.body.fields.flatMap fun f => argumentsFaults (d.name ++ "." ++ f.name) f.arguments)
    ++ repeatedDirectives c (same.flatMap (·.directives)) d.directives

def operationFaults (earlier : List (Definition Unit)) (d : SchemaDefinition Unit) :
    List String :=
  let seen := (earlier.filterMap Definition.schema?).flatMap (·.operations)
  (repeated (seen.map (·.1.name)) (d.operations.map (·.1.name))).map fun n =>
    "There can be only one " ++ n ++ " type in schema."

def schemaFaults (earlier : List (Definition Unit)) (d : SchemaDefinition Unit) : List String :=
  let seen := (earlier.filterMap Definition.schema?).flatMap (·.directives)
  operationFaults earlier d ++ repeatedDirectives c seen d.directives

def extensionFaults (d : TypeDefinition Unit) : List (Attempt String) :=
  match c.types.reverse.find? (·.name == d.name) with
  | some t =>
    if t.body.kindName = d.body.kindName then []
    else [.ok ("Cannot extend non-" ++ d.body.kindName ++ " type '" ++ d.name ++ "'.")]
  | none =>
    [(Suggestion.didYouMean d.name c.typeNames).map fun hint =>
      "Cannot extend type '" ++ d.name ++ "' because it is not defined." ++ hint]

def definitionFaults (earlier : List (Definition Unit)) :
    Definition Unit → List (Attempt String)
  | .schema _ d =>
    let isFirst := earlier.all fun
      | .schema .. => false
      | _ => true
    (if isFirst then [] else ["Must provide only one schema definition."])
      ++ schemaFaults c earlier d
  | .extendSchema d => schemaFaults c earlier d
  | .type _ d =>
    let isFirst := earlier.all fun
      | .type _ e => e.name != d.name
      | _ => true
    (if isFirst then [] else ["There can be only one type named '" ++ d.name ++ "'."])
      ++ typeFaults c earlier d
  | .extendType d => typeFaults c earlier d ++ extensionFaults c d
  | .directive d =>
    let isFirst := earlier.all fun
      | .directive e => e.name != d.name
      | _ => true
    argumentsFaults ("@" ++ d.name) d.arguments ++
      if isFirst then [] else ["There can be only one directive named '@" ++ d.name ++ "'."]
  | _ => []

def typeNameFaults (name : String) (inDefinition : Bool) : List (Attempt String) :=
  if c.typeNames.contains name || (inDefinition && standardNames.contains name) then []
  else
    let options := (if inDefinition then standardNames else []) ++ c.typeNames
    [(Suggestion.didYouMean name options).map fun hint => "Unknown type '" ++ name ++ "'." ++ hint]

/-- A location in words. -/
def locationText (location : String) : String :=
  location.toLower.map fun c => if c = '_' then ' ' else c

def directiveFaults (d : Applied) (location : String) : List (Attempt String) :=
  match c.directive? d.name with
  | none => [.ok ("Unknown directive '@" ++ d.name ++ "'.")]
  | some k =>
    let placed := if k.locations.contains location then []
      else ["Directive '@" ++ d.name ++ "' may not be used on " ++ locationText location ++ "."]
    placed ++ (d.arguments.filter fun a => !k.arguments.contains a.name).map fun a =>
      (Suggestion.didYouMean a.name k.arguments).map fun hint =>
        "Unknown argument '" ++ a.name ++ "' on directive '@" ++ d.name ++ "'." ++ hint

def argumentNameFaults (names : List String) : List String :=
  (doubled names).map fun n => "There can be only one argument named '" ++ n ++ "'."

def requiredFaults (d : Applied) : List String :=
  let required := ((c.directive? d.name).map (·.required)).getD []
  (required.filter fun r => !(d.arguments.any (·.name == r.1))).map fun r =>
    "Directive '@" ++ d.name ++ "' argument '" ++ r.1 ++ "' of type '" ++ r.2.text
      ++ "' is required, but it was not provided."

/-- What is wrong at one place. -/
def faults : Visit → List (Attempt String)
  | .definition earlier d => definitionFaults c earlier d
  | .carrier ds => repeatedDirectives c [] ds
  | .typeName n inDefinition => typeNameFaults c n inDefinition
  | .directive d location =>
    directiveFaults c d location ++ argumentNameFaults (d.arguments.map (·.name))
  | .directiveEnd d => requiredFaults c d
  | .arguments names => argumentNameFaults names
  | .entry earlier n =>
    if earlier.contains n then [.ok ("There can be only one input field named '" ++ n ++ "'.")]
    else []

end Visit

/-- What is wrong with a document, in its order. -/
def Document.faults (doc : Document Unit) : List (Attempt String) :=
  doc.visits.flatMap (Visit.faults (RuleContext.ofDocument doc))

end Subgraph
