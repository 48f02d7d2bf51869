import Subgraph.Document.Basic
import Subgraph.Value.Basic

/-!
Schemas: named types, directives and the root operation types.

Types, fields, arguments and values stand in the order in which they are printed. Everything
keeps the directives that its definition and its extensions apply to it.
-/

namespace Subgraph

abbrev Applied := Directive Unit
abbrev Constant := Literal Unit

/-- A default as it is written, or the value it had at a type that has been replaced since. -/
inductive Default where
  | written (l : Constant)
  | value (v : Value)
  deriving Repr, Inhabited

/-- An argument or an input field. -/
structure InputValue where
  description : Option String
  name : String
  type : TypeRef
  default? : Option Default
  deprecation : Option String
  applied : List Applied
  deriving Repr, Inhabited

structure Field where
  description : Option String
  name : String
  arguments : List InputValue
  type : TypeRef
  deprecation : Option String
  applied : List Applied
  deriving Repr, Inhabited

def Field.argument? (f : Field) (name : String) : Option InputValue :=
  f.arguments.find? (·.name == name)

structure EnumValue where
  description : Option String
  name : String
  deprecation : Option String
  applied : List Applied
  deriving Repr, Inhabited

inductive TypeShape where
  | scalar (specifiedBy : Option String)
  | object (interfaces : List String) (fields : List Field)
  | interface (interfaces : List String) (fields : List Field)
  | union (members : List String)
  | enum (values : List EnumValue)
  | input (oneOf : Bool) (fields : List InputValue)
  deriving Repr, Inhabited

namespace TypeShape

/-- Fields of objects and interfaces. -/
def fields : TypeShape → List Field
  | .object _ fs => fs
  | .interface _ fs => fs
  | _ => []

/-- Changes arguments and input fields. -/
def mapInputs (f : InputValue → InputValue) : TypeShape → TypeShape
  | .object is fs => .object is (fs.map fun g => { g with arguments := g.arguments.map f })
  | .interface is fs => .interface is (fs.map fun g => { g with arguments := g.arguments.map f })
  | .input o fs => .input o (fs.map f)
  | s => s

def interfaces : TypeShape → List String
  | .object is _ => is
  | .interface is _ => is
  | _ => []

def isObject : TypeShape → Bool
  | .object .. => true
  | _ => false

def isInterface : TypeShape → Bool
  | .interface .. => true
  | _ => false

def isUnion : TypeShape → Bool
  | .union .. => true
  | _ => false

def isAbstract (s : TypeShape) : Bool := s.isInterface || s.isUnion

def isComposite (s : TypeShape) : Bool := s.isObject || s.isAbstract

def isInput : TypeShape → Bool
  | .scalar _ => true
  | .enum _ => true
  | .input .. => true
  | _ => false

def isOutput : TypeShape → Bool
  | .input .. => false
  | _ => true

def isLeaf : TypeShape → Bool
  | .scalar _ => true
  | .enum _ => true
  | _ => false

def hasFields : TypeShape → Bool
  | .object .. => true
  | .interface .. => true
  | .input .. => true
  | _ => false

end TypeShape

structure NamedType where
  description : Option String
  name : String
  shape : TypeShape
  applied : List Applied
  deriving Repr, Inhabited

def NamedType.field? (t : NamedType) (name : String) : Option Field :=
  t.shape.fields.find? (·.name == name)

structure DirectiveType where
  description : Option String
  name : String
  arguments : List InputValue
  repeatable : Bool
  locations : List String
  deriving Repr, Inhabited

structure Schema where
  description : Option String
  types : List NamedType
  directives : List DirectiveType
  query : Option String
  mutation : Option String
  subscription : Option String
  deriving Repr, Inhabited

namespace Schema

def empty : Schema := ⟨none, [], [], none, none, none⟩

def type? (s : Schema) (name : String) : Option NamedType := s.types.find? (·.name == name)

def shape? (s : Schema) (name : String) : Option TypeShape := (s.type? name).map (·.shape)

def directive? (s : Schema) (name : String) : Option DirectiveType :=
  s.directives.find? (·.name == name)

def root (s : Schema) : OperationKind → Option String
  | .query => s.query
  | .mutation => s.mutation
  | .subscription => s.subscription

def isObject (s : Schema) (name : String) : Bool := (s.shape? name).any TypeShape.isObject

/-- The object types that a value of an abstract type can have. -/
def possibleTypes (s : Schema) (name : String) : List String :=
  match s.shape? name with
  | some (.union ms) => ms
  | some (.interface ..) =>
    (s.types.filter fun t => t.shape.isObject && t.shape.interfaces.contains name).map (·.name)
  | some (.object ..) => [name]
  | _ => []

/-- Whether a type implements an interface or is a member of a union. -/
def isSubType (s : Schema) (abstract sub : String) : Bool :=
  match s.shape? abstract with
  | some (.union ms) => ms.contains sub
  | some (.interface ..) => (s.shape? sub).any (·.interfaces.contains abstract)
  | _ => false

end Schema

def builtinScalarNames : List String := ["String", "Int", "Float", "Boolean", "ID"]

def introspectionNames : List String :=
  ["__Schema", "__Directive", "__DirectiveLocation", "__Type", "__Field", "__InputValue",
   "__EnumValue", "__TypeKind"]

/-- Every schema has these types; they are not printed. -/
def standardNames : List String := builtinScalarNames ++ introspectionNames

def isBuiltinName (name : String) : Bool := standardNames.contains name

def NamedType.isDefined (t : NamedType) : Bool := !isBuiltinName t.name

def specifiedDirectiveNames : List String :=
  ["include", "skip", "deprecated", "specifiedBy", "oneOf"]

def DirectiveType.isSpecified (d : DirectiveType) : Bool := specifiedDirectiveNames.contains d.name

end Subgraph
