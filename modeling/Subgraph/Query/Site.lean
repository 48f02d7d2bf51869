import Subgraph.Schema.Coercion
import Subgraph.Schema.Builtin

/-!
The places of an operation or fragment in the order in which they are visited, each with the type
it stands in.

`Site.ofSelections` walks through selections from a parent type, which is none where an error
above leaves it open. A field is visited twice, before what is below it and after.
-/

namespace Subgraph

/-- A field of a selection set. -/
structure FieldNode where
  mark : Nat
  label? : Option String
  name : String
  arguments : List (Argument Nat)
  directives : List (Directive Nat)
  bodyMark : Nat
  selections : List (Selection Nat)
  deriving Repr, Inhabited

/-- The name under which the value of a field appears. -/
def FieldNode.key (n : FieldNode) : String := n.label?.getD n.name

namespace Schema
variable (s : Schema)

def schemaField : Field := ⟨none, "__schema", [], .nonNull (.named "__Schema"), none, []⟩

def typeField : Field :=
  ⟨none, "__type", [⟨none, "name", .nonNull (.named "String"), none, none, []⟩],
   .named "__Type", none, []⟩

def typenameField : Field := ⟨none, "__typename", [], .nonNull (.named "String"), none, []⟩

/-- The field of a type, among them those that introspection gives to every type and to the
query root. -/
def fieldOf? (t : NamedType) (name : String) : Option Field :=
  if name = "__schema" ∧ s.query = some t.name then some schemaField
  else if name = "__type" ∧ s.query = some t.name then some typeField
  else if name = "__typename" ∧ t.shape.isComposite then some typenameField
  else t.field? name

/-- A type that fields can be selected from. -/
def composite? (name : String) : Option NamedType :=
  (s.type? name).filter (·.shape.isComposite)

def inputType? (t : TypeRef) : Option TypeRef :=
  if (s.shape? t.base).any TypeShape.isInput then some t else none

def possibleNames (t : NamedType) : List String := s.possibleTypes t.name

/-- Whether a value can be of two types at once. -/
def overlap (a b : NamedType) : Bool :=
  a.name == b.name || (s.possibleNames a).any (s.possibleNames b).contains

end Schema

inductive Site where
  | field (parent : Option NamedType) (def? : Option Field) (node : FieldNode)
  | fieldEnd (parent : Option NamedType) (def? : Option Field) (node : FieldNode)
  | spread (parent : Option NamedType) (mark nameMark : Nat) (name : String)
      (directives : List (Directive Nat))
  | inline (parent : Option NamedType) (mark : Nat) (condition : Option (Nat × String))
      (directives : List (Directive Nat))
  | selections (parent : Option NamedType) (body : List (Selection Nat))

namespace Site

mutual
def ofSelection (s : Schema) (parent : Option NamedType) : Selection Nat → List Site
  | .field m l n as ds bm ss =>
    let def? := parent.bind (s.fieldOf? · n)
    let inner := def?.bind fun f => s.composite? f.type.base
    let node : FieldNode := ⟨m, l, n, as, ds, bm, ss⟩
    .field parent def? node
      :: (if ss.isEmpty then [] else [.selections inner ss]) ++ ofSelections s inner ss
      ++ [.fieldEnd parent def? node]
  | .spread m nm n ds => [.spread parent m nm n ds]
  | .inline m c ds ss =>
    let inner := match c with
      | some (_, n) => s.composite? n
      | none => parent
    .inline parent m c ds :: .selections inner ss :: ofSelections s inner ss
def ofSelections (s : Schema) (parent : Option NamedType) : List (Selection Nat) → List Site
  | [] => []
  | x :: xs => ofSelection s parent x ++ ofSelections s parent xs
end

def directives : Site → List (Directive Nat)
  | .field _ _ n => n.directives
  | .spread _ _ _ _ ds => ds
  | .inline _ _ _ ds => ds
  | _ => []

def directiveLocation : Site → String
  | .field .. => "FIELD"
  | .spread .. => "FRAGMENT_SPREAD"
  | _ => "INLINE_FRAGMENT"

end Site

/-- What is wrong with a document, and where. -/
structure Issue where
  positions : List Nat
  message : String
  deriving DecidableEq, Repr

/-- The definitions of a document by kind, with what the rules look up. -/
structure QueryContext where
  schema : Schema
  document : Document Nat
  operations : List (Operation Nat)
  fragments : List (Fragment Nat)

namespace QueryContext

def operationsOf (ds : List (Definition Nat)) : List (Operation Nat) := ds.filterMap fun
  | .operation o => some o
  | _ => none

def fragmentsAmong (ds : List (Definition Nat)) : List (Fragment Nat) := ds.filterMap fun
  | .fragment f => some f
  | _ => none

def ofDocument (s : Schema) (doc : Document Nat) : QueryContext where
  schema := s
  document := doc
  operations := operationsOf doc
  fragments := fragmentsAmong doc

variable (c : QueryContext)

def fragment? (name : String) : Option (Fragment Nat) :=
  c.fragments.reverse.find? (·.name == name)

def operationRoot (o : Operation Nat) : Option NamedType :=
  (c.schema.root o.kind).bind c.schema.composite?

def operationSites (o : Operation Nat) : List Site :=
  let root := c.operationRoot o
  .selections root o.selections :: Site.ofSelections c.schema root o.selections

def fragmentSites (f : Fragment Nat) : List Site :=
  let root := c.schema.composite? f.condition
  .selections root f.selections :: Site.ofSelections c.schema root f.selections

def sites : List Site :=
  c.operations.flatMap c.operationSites ++ c.fragments.flatMap c.fragmentSites

/-- The spreads among selections with their positions; those of nested selections come last,
the last of these first. -/
def spreadsIn : Nat → List (List (Selection Nat)) → List (Nat × String)
  | 0, _ => []
  | _, [] => []
  | fuel + 1, top :: rest =>
    let own := top.filterMap fun
      | .spread m _ n _ => some (m, n)
      | _ => none
    let inner := top.filterMap fun
      | .field _ _ _ _ _ _ ss => if ss.isEmpty then none else some ss
      | .inline _ _ _ ss => some ss
      | _ => none
    own ++ spreadsIn fuel (inner.reverse ++ rest)

def spreadsBelow (ss : List (Selection Nat)) : List (Nat × String) :=
  spreadsIn (c.sites.length + 1) [ss]

/-- Adds the fragments that selections lead to, each once; the fragments of the last of them come
first. -/
def reach : Nat → List String → List (List (Selection Nat)) → List (Fragment Nat)
  | 0, _, _ => []
  | _, _, [] => []
  | fuel + 1, found, top :: rest =>
    let names := ((c.spreadsBelow top).map (·.2)).eraseDups.filter (!found.contains ·)
    let fs := names.filterMap c.fragment?
    fs ++ reach fuel (found ++ names) ((fs.map (·.selections)).reverse ++ rest)

/-- The fragments that an operation uses, at whatever depth. -/
def fragmentsOf (o : Operation Nat) : List (Fragment Nat) :=
  c.reach (c.fragments.length + 2) [] [o.selections]

end QueryContext
end Subgraph
