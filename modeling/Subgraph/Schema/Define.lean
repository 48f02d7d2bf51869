import Subgraph.Schema.Builtin
import Subgraph.Document.Printer

/-!
What the definitions of a document make: types, fields, arguments and values, with what their
directives say of them. A definition that is repeated replaces the earlier one where that one
stands; the members that extensions add come after those of the definition.
-/

namespace Subgraph

/-- What is wrong with the argument of a directive. -/
inductive ArgumentFault where
  | missing (name type : String)
  | null (name type : String)
  | value (name written : String)
  deriving DecidableEq, Repr

def ArgumentFault.message : ArgumentFault → String
  | .missing n t => "Argument '" ++ n ++ "' of required type '" ++ t ++ "' was not provided."
  | .null n t => "Argument '" ++ n ++ "' of non-null type '" ++ t ++ "' must not be null."
  | .value n w => "Argument '" ++ n ++ "' has invalid value " ++ w ++ "."

/-- A directive that cannot be read, and where that shows. -/
structure Misuse (μ : Type) where
  fault : ArgumentFault
  place : μ

inductive BuildError where
  | unknownType (name : String)
  | argumentNotInput
  | fieldNotOutput
  | inputFieldNotInput
  | defaultNotInput (type : String)
  | argument (fault : ArgumentFault)
  | notInterfaces (type : String)
  | notObjects (type : String)
  | extensionKind (type kind : String)
  | noValues (kind : String)
  | duplicateType (name : String)
  | noFields (kind : String)
  | noField (name : String)
  | inFields (type : String) (cause : BuildError)
  | inInterfaces (type : String) (cause : BuildError)
  | inMembers (type : String) (cause : BuildError)
  deriving DecidableEq, Repr

def BuildError.message : BuildError → String
  | .unknownType n => "Unknown type: '" ++ n ++ "'."
  | .argumentNotInput => "Argument type must be a GraphQL input type."
  | .fieldNotOutput => "Field type must be an output type."
  | .inputFieldNotInput => "Input field type must be a GraphQL input type."
  | .defaultNotInput t => "Unexpected input type: " ++ t ++ "."
  | .argument f => f.message
  | .notInterfaces t =>
    t ++ " interfaces must be specified as a collection of GraphQLInterfaceType instances."
  | .notObjects t =>
    t ++ " types must be specified as a collection of GraphQLObjectType instances."
  | .extensionKind t k =>
    t ++ " extension AST nodes must be specified as a collection of " ++ k
      ++ "TypeExtensionNode instances."
  | .noValues k => "'" ++ k ++ "TypeExtensionNode' object has no attribute 'values'"
  | .duplicateType n =>
    "Schema must contain uniquely named types but contains multiple types named '" ++ n ++ "'."
  | .noFields k => "'GraphQL" ++ k ++ "Type' object has no attribute 'fields'"
  | .noField n => "'" ++ n ++ "'"
  | .inFields t c => t ++ " fields cannot be resolved. " ++ c.message
  | .inInterfaces t c => t ++ " interfaces cannot be resolved. " ++ c.message
  | .inMembers t c => t ++ " types cannot be resolved. " ++ c.message

/-- What sort of failure an error is. -/
def BuildError.kind : BuildError → String
  | .argument _ => "GraphQLError"
  | .inFields _ cause => cause.kind
  | .noValues _ => "AttributeError"
  | .noFields _ => "AttributeError"
  | .noField _ => "KeyError"
  | _ => "TypeError"

/-- The last item of each name, at the place of the first. -/
def lastByName {α : Type} (name : α → String) (xs : List α) : List α :=
  (Entries.ofPairs (xs.map fun x => (name x, x))).map (·.2)

/-- The kind of a type definition. -/
def TypeBody.kind : TypeBody Unit → String
  | .scalar => "Scalar"
  | .object .. => "Object"
  | .interface .. => "Interface"
  | .union _ => "Union"
  | .enum _ => "Enum"
  | .input _ => "InputObject"

/-- The kind of a type by its shape. -/
def TypeShape.kind : TypeShape → String
  | .scalar _ => "Scalar"
  | .object .. => "Object"
  | .interface .. => "Interface"
  | .union _ => "Union"
  | .enum _ => "Enum"
  | .input .. => "InputObject"

namespace Build

section Directives
variable {μ : Type}

/-- The text argument of the first directive of a name: none without such a directive, and
`fallback` where the directive leaves the argument out. -/
def textArgument (directive argument : String) (fallback : Option String)
    (applied : List (Directive μ)) : Except (Misuse μ) (Option String) :=
  let type := if fallback.isNone then "String!" else "String"
  match applied.find? (·.name == directive) with
  | none => .ok none
  | some d =>
    match d.arguments.reverse.find? (·.name == argument) with
    | none =>
      match fallback with
      | some s => .ok (some s)
      | none => .error ⟨.missing argument type, d.mark⟩
    | some a =>
      match a.value with
      | .string _ s _ => .ok (some s)
      | .null m => if fallback.isNone then .error ⟨.null argument type, m⟩ else .ok none
      | v => .error ⟨.value argument v.print, v.mark⟩

def deprecation (applied : List (Directive μ)) : Except (Misuse μ) (Option String) :=
  textArgument "deprecated" "reason" (some Builtin.noReason) applied

def specifiedBy (applied : List (Directive μ)) : Except (Misuse μ) (Option String) :=
  textArgument "specifiedBy" "url" none applied

def orNone (r : Except (Misuse μ) (Option String)) : Option String := r.toOption.join

/-- Goes on if a directive could be read. -/
def sound (r : Except (Misuse μ) (Option String)) : Except BuildError Unit :=
  match r with
  | .ok _ => .ok ()
  | .error m => .error (.argument m.fault)

def misuse? (r : Except (Misuse μ) (Option String)) : Option μ :=
  match r with
  | .ok _ => none
  | .error m => some m.place

end Directives

def isOneOf (applied : List Applied) : Bool := applied.any (·.name == "oneOf")

def inputValue (d : InputDefinition Unit) : InputValue :=
  ⟨d.description, d.name, d.type, d.default?.map .written, orNone (deprecation d.directives),
    d.directives⟩

def field (d : FieldDefinition Unit) : Field :=
  ⟨d.description, d.name, d.arguments.map inputValue, d.type, orNone (deprecation d.directives),
   d.directives⟩

def enumValue (d : EnumValueDefinition Unit) : EnumValue :=
  ⟨d.description, d.name, orNone (deprecation d.directives), d.directives⟩

def shape (d : TypeDefinition Unit) : TypeShape :=
  match d.body with
  | .scalar => .scalar (orNone (specifiedBy d.directives))
  | .object is fs => .object is (fs.map field)
  | .interface is fs => .interface is (fs.map field)
  | .union ms => .union ms
  | .enum vs => .enum (vs.map enumValue)
  | .input fs => .input (isOneOf d.directives) (fs.map inputValue)

/-- Adds the members of another shape of the same kind. -/
def addShape : TypeShape → TypeShape → TypeShape
  | .object is fs, .object is' fs' => .object (is ++ is') (fs ++ fs')
  | .interface is fs, .interface is' fs' => .interface (is ++ is') (fs ++ fs')
  | .union ms, .union ms' => .union (ms ++ ms')
  | .enum vs, .enum vs' => .enum (vs ++ vs')
  | .input o fs, .input _ fs' => .input o (fs ++ fs')
  | a, _ => a

/-- Adds an extension to a type. -/
def addExtension (t : NamedType) (d : TypeDefinition Unit) : NamedType :=
  { t with shape := addShape t.shape (shape d), applied := t.applied ++ d.directives }

/-- As `addExtension`, but the extension of a scalar can also say what specifies it. -/
def extendExisting (t : NamedType) (d : TypeDefinition Unit) : NamedType :=
  match t.shape, shape d with
  | .scalar old, .scalar new =>
    { t with shape := .scalar (new.or old), applied := t.applied ++ d.directives }
  | _, _ => addExtension t d

def namedType (extensions : List (TypeDefinition Unit)) (description : Option String)
    (d : TypeDefinition Unit) : NamedType :=
  match Builtin.type? d.name with
  | some t => t
  | none =>
    (extensions.filter (·.name == d.name)).foldl addExtension
      ⟨description, d.name, shape d, d.directives⟩

def directiveType (d : DirectiveDefinition Unit) : DirectiveType :=
  ⟨d.description, d.name, lastByName (·.name) (d.arguments.map inputValue), d.repeatable,
   d.locations⟩

/-- What a document defines, by kind. -/
structure Parts where
  types : List (Option String × TypeDefinition Unit)
  extensions : List (TypeDefinition Unit)
  directives : List (DirectiveDefinition Unit)
  schemas : List (Option String × SchemaDefinition Unit)
  schemaExtensions : List (SchemaDefinition Unit)

def parts (doc : Document Unit) : Parts where
  types := doc.filterMap fun
    | .type desc d => some (desc, d)
    | _ => none
  extensions := doc.filterMap fun
    | .extendType d => some d
    | _ => none
  directives := doc.filterMap fun
    | .directive d => some d
    | _ => none
  schemas := doc.filterMap fun
    | .schema desc d => some (desc, d)
    | _ => none
  schemaExtensions := doc.filterMap fun
    | .extendSchema d => some d
    | _ => none

def settleField (f : Field) : Field := { f with arguments := lastByName (·.name) f.arguments }

/-- Keeps the last member of each name. -/
def settle (t : NamedType) : NamedType :=
  { t with shape := match t.shape with
    | .object is fs => .object is (lastByName (·.name) (fs.map settleField))
    | .interface is fs => .interface is (lastByName (·.name) (fs.map settleField))
    | .enum vs => .enum (lastByName (·.name) vs)
    | .input o fs => .input o (lastByName (·.name) fs)
    | s => s }

end Build
end Subgraph
