import Subgraph.Entries

/-!
Documents: type definitions, operations and fragments as they are written.

Everything an error can point at carries a mark. The marks of an operation are positions in
its text; a document that defines types needs none, and has marks of type `Unit`.
-/

namespace Subgraph

/-- A value as it is written. Numbers keep their digits. -/
inductive Literal (μ : Type) where
  | variable (mark : μ) (name : String)
  | int (mark : μ) (digits : String)
  | float (mark : μ) (digits : String)
  | string (mark : μ) (text : String) (block : Bool)
  | bool (mark : μ) (b : Bool)
  | null (mark : μ)
  | enum (mark : μ) (name : String)
  | list (mark : μ) (items : List (Literal μ))
  | object (mark : μ) (fields : List (μ × String × Literal μ))
  deriving Repr, Inhabited

variable {μ : Type}

def Literal.mark : Literal μ → μ
  | .variable m _ => m
  | .int m _ => m
  | .float m _ => m
  | .string m _ _ => m
  | .bool m _ => m
  | .null m => m
  | .enum m _ => m
  | .list m _ => m
  | .object m _ => m

structure Argument (μ : Type) where
  mark : μ
  name : String
  value : Literal μ
  deriving Repr, Inhabited

structure Directive (μ : Type) where
  mark : μ
  name : String
  arguments : List (Argument μ)
  deriving Repr, Inhabited

inductive TypeRef where
  | named (name : String)
  | list (item : TypeRef)
  | nonNull (item : TypeRef)
  deriving DecidableEq, Repr, Inhabited

namespace TypeRef

def base : TypeRef → String
  | .named n => n
  | .list t => t.base
  | .nonNull t => t.base

def text : TypeRef → String
  | .named n => n
  | .list t => "[" ++ t.text ++ "]"
  | .nonNull t => t.text ++ "!"

def isNonNull : TypeRef → Bool
  | .nonNull _ => true
  | _ => false

/-- The type without the mark at its end that forbids null. -/
def nullable : TypeRef → TypeRef
  | .nonNull t => t
  | t => t

end TypeRef

inductive OperationKind where
  | query
  | mutation
  | subscription
  deriving DecidableEq, Repr, Inhabited

def OperationKind.name : OperationKind → String
  | .query => "query"
  | .mutation => "mutation"
  | .subscription => "subscription"

/-- A part of a selection set. A field without a body has no selections, and the mark of its
body is then its own. -/
inductive Selection (μ : Type) where
  | field (mark : μ) (label? : Option String) (name : String) (arguments : List (Argument μ))
      (directives : List (Directive μ)) (bodyMark : μ) (selections : List (Selection μ))
  | spread (mark nameMark : μ) (name : String) (directives : List (Directive μ))
  | inline (mark : μ) (condition : Option (μ × String)) (directives : List (Directive μ))
      (selections : List (Selection μ))
  deriving Repr, Inhabited

structure VariableDefinition (μ : Type) where
  mark : μ
  nameMark : μ
  name : String
  typeMark : μ
  baseMark : μ
  type : TypeRef
  default? : Option (Literal μ)
  directives : List (Directive μ)
  deriving Repr, Inhabited

structure Operation (μ : Type) where
  mark : μ
  kind : OperationKind
  name : Option (μ × String)
  variableDefinitions : List (VariableDefinition μ)
  directives : List (Directive μ)
  selections : List (Selection μ)
  deriving Repr, Inhabited

structure Fragment (μ : Type) where
  mark : μ
  nameMark : μ
  name : String
  conditionMark : μ
  condition : String
  directives : List (Directive μ)
  selections : List (Selection μ)
  deriving Repr, Inhabited

/-- An argument of a field or directive, or a field of an input type. -/
structure InputDefinition (μ : Type) where
  description : Option String
  name : String
  type : TypeRef
  default? : Option (Literal μ)
  directives : List (Directive μ)
  deriving Repr, Inhabited

structure FieldDefinition (μ : Type) where
  description : Option String
  name : String
  arguments : List (InputDefinition μ)
  type : TypeRef
  directives : List (Directive μ)
  deriving Repr, Inhabited

structure EnumValueDefinition (μ : Type) where
  description : Option String
  name : String
  directives : List (Directive μ)
  deriving Repr, Inhabited

/-- What a type definition says besides its name, description and directives. -/
inductive TypeBody (μ : Type) where
  | scalar
  | object (interfaces : List String) (fields : List (FieldDefinition μ))
  | interface (interfaces : List String) (fields : List (FieldDefinition μ))
  | union (members : List String)
  | enum (values : List (EnumValueDefinition μ))
  | input (fields : List (InputDefinition μ))
  deriving Repr, Inhabited

structure TypeDefinition (μ : Type) where
  mark : μ
  name : String
  directives : List (Directive μ)
  body : TypeBody μ
  deriving Repr, Inhabited

structure SchemaDefinition (μ : Type) where
  mark : μ
  directives : List (Directive μ)
  operations : List (OperationKind × String)
  deriving Repr, Inhabited

structure DirectiveDefinition (μ : Type) where
  mark : μ
  description : Option String
  name : String
  arguments : List (InputDefinition μ)
  repeatable : Bool
  locations : List String
  deriving Repr, Inhabited

inductive Definition (μ : Type) where
  | operation (o : Operation μ)
  | fragment (f : Fragment μ)
  | schema (description : Option String) (d : SchemaDefinition μ)
  | type (description : Option String) (d : TypeDefinition μ)
  | directive (d : DirectiveDefinition μ)
  | extendSchema (d : SchemaDefinition μ)
  | extendType (d : TypeDefinition μ)
  deriving Repr, Inhabited

abbrev Document (μ : Type) := List (Definition μ)

/-- How deeply selection sets, values and list types may stand in each other. -/
def Document.deepestNesting : Nat := 200

end Subgraph
