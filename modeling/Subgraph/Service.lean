import Subgraph.Federation.Classification

/-!
A service: a schema together with what answers its fields and recognises its types.

A field without a resolver of its own is answered by the entry or attribute of its name.
-/

namespace Subgraph

/-- What the resolver of a field is told. -/
structure FieldCall where
  source : Value
  arguments : Entries Value
  context : Value
  root : Value

inductive Resolver where
  | custom (answer : FieldCall → Except Failure Value)
  | sdl (text : String)
  | entities (c : Federation.Classification)

structure Service where
  schema : Schema
  resolvers : List ((String × String) × Resolver)
  /-- Whether a value belongs to an object type, for the types that can tell. -/
  typeChecks : Entries (Value → Value)
  /-- The abstract types whose values are tagged with the name of their type. -/
  taggedTypes : List String

namespace Service

def ofSchema (s : Schema) : Service := ⟨s, [], [], []⟩

def resolver? (x : Service) (type field : String) : Option Resolver :=
  x.resolvers.lookup (type, field)

def typeCheck? (x : Service) (type : String) : Option (Value → Value) :=
  Entries.get? x.typeChecks type

end Service
end Subgraph
