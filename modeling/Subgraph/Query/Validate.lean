import Subgraph.Query.Foreign
import Subgraph.Query.Overlap

/-!
All issues of a document of operations and fragments against a schema, in the order in which its
places are visited.
-/

namespace Subgraph
open Suggestion (Attempt)

/-- What ends the search for issues by itself. -/
inductive Obstacle where
  | issue (i : Issue)
  | suggestion (f : Suggestion.Fault)
  deriving DecidableEq, Repr

/-- Introspection fields that lead from a type to lists of types or fields. -/
def deepFields : List String := ["fields", "interfaces", "possibleTypes", "inputFields"]

def deepestIntrospection : Nat := 3

namespace QueryContext

/-- Whether a path through selections meets too many deep fields. A fragment is entered once on
a path. -/
def isTooDeep : Nat → QueryContext → Nat → Selection Nat → Bool
  | 0, _, _, _ => false
  | fuel + 1, c, depth, .field _ _ n _ _ _ ss =>
    let depth := if deepFields.contains n then depth + 1 else depth
    (deepFields.contains n && deepestIntrospection ≤ depth) || ss.any (isTooDeep fuel c depth)
  | fuel + 1, c, depth, .inline _ _ _ ss => ss.any (isTooDeep fuel c depth)
  | fuel + 1, c, depth, .spread _ _ n _ =>
    let others := { c with fragments := c.fragments.filter (·.name != n) }
    ((c.fragment? n).map fun f => f.selections.any (isTooDeep fuel others depth)).getD false

/-- How many levels of selection sets stand below fragments. -/
abbrev Heights := List (String × Nat)

mutual
/-- The levels of selection sets that a selection opens, given those of fragments. -/
def height (fragments : Heights) : Selection Nat → Nat
  | .field _ _ _ _ _ _ ss => if ss.isEmpty then 0 else 1 + greatestHeight fragments ss
  | .inline _ _ _ ss => 1 + greatestHeight fragments ss
  | .spread _ _ n _ => (fragments.lookup n).getD 0
def greatestHeight (fragments : Heights) : List (Selection Nat) → Nat
  | [] => 0
  | x :: xs => max (height fragments x) (greatestHeight fragments xs)
end

variable (c : QueryContext)

def introspectionIssues (n : FieldNode) : List Issue :=
  if (n.name = "__schema" || n.name = "__type") && n.selections.any (isTooDeep c.topDepth c 0) then
    [⟨[n.mark], "Maximum introspection depth exceeded"⟩]
  else []

def argumentIssues (parent : Option NamedType) (def? : Option Field) (n : FieldNode) :
    List (Attempt Issue) :=
  n.arguments.flatMap fun a =>
    unknownArgumentIssues parent def? n a
      ++ c.argumentLiteralIssues (a, def?.bind (·.argument? a.name))

/-- The issues at a place, but for those of overlapping fields. -/
def siteIssues : Site → List (Attempt Issue)
  | .field parent def? n =>
    c.leafSelectionIssues def? n ++ c.unknownFieldIssues parent def? n
      ++ c.repeatedDirectiveIssues n.directives ++ doubledArgumentIssues n.arguments
      ++ c.introspectionIssues n ++ c.argumentIssues parent def? n
      ++ c.directivesIssues "FIELD" n.directives
  | .fieldEnd _ def? n => c.requiredArgumentIssues def? n
  | .spread parent m nm n ds =>
    c.knownFragmentIssues nm n ++ c.spreadIssues parent m n ++ c.repeatedDirectiveIssues ds
      ++ c.directivesIssues "FRAGMENT_SPREAD" ds
  | .inline parent m condition ds =>
    condition.toList.flatMap (fun (cm, n) => c.conditionIssues cm n)
      ++ c.inlineIssues parent m condition ++ c.repeatedDirectiveIssues ds
      ++ condition.toList.flatMap (fun (cm, n) => c.typeNameIssues [] cm n)
      ++ c.directivesIssues "INLINE_FRAGMENT" ds
  | .selections .. => []

/-- The issues of the places of a definition. The owner is the fragment that is defined; it owns
the selections at its top. -/
def sitesIssues (owner : Option String) : List Site → Overlap.Search (List (Attempt Issue))
  | [] => return []
  | .selections parent ss :: r => do
    return (← Overlap.issues c parent owner ss) ++ (← sitesIssues none r)
  | site :: r => do
    return c.siteIssues site ++ (← sitesIssues owner r)

def variableDefinitionIssues (v : VariableDefinition Nat) : List (Attempt Issue) :=
  c.variableTypeIssues v ++ c.repeatedDirectiveIssues v.directives
    ++ c.typeNameIssues [] v.baseMark v.type.base
    ++ (v.default?.map (Query.literalIssues c.schema true (c.schema.inputType? v.type))).getD []
    ++ c.directivesIssues "VARIABLE_DEFINITION" v.directives

def operationIssues (earlier : List (Operation Nat)) (o : Operation Nat) :
    Overlap.Search (List (Attempt Issue)) := do
  let start := operationNameIssues earlier o ++ c.anonymousIssues o
    ++ (c.subscriptionIssues o).toOption.getD []
    ++ variableNameIssues o ++ c.repeatedDirectiveIssues o.directives
    ++ o.variableDefinitions.flatMap c.variableDefinitionIssues
    ++ c.directivesIssues o.kind.name.toUpper o.directives
  return start ++ (← c.sitesIssues none (c.operationSites o)) ++ c.undefinedVariableIssues o
    ++ c.unusedVariableIssues o ++ c.variablePositionIssues o

def fragmentIssues (earlier : List (Fragment Nat)) (f : Fragment Nat) :
    Overlap.Search (List (Attempt Issue)) := do
  let start := c.fragmentTypeIssues f ++ fragmentNameIssues earlier f ++ c.cycleIssues earlier f
    ++ c.repeatedDirectiveIssues f.directives ++ c.typeNameIssues [] f.conditionMark f.condition
    ++ c.directivesIssues "FRAGMENT_DEFINITION" f.directives
  return start ++ (← c.sitesIssues (some f.name) (c.fragmentSites f))

def definitionsIssues (earlier : List (Definition Nat)) :
    List (Definition Nat) → Overlap.Search (List (Attempt Issue))
  | [] => return []
  | d :: ds => do
    let own ← match d with
      | .operation o => c.operationIssues (operationsOf earlier) o
      | .fragment f => c.fragmentIssues (fragmentsAmong earlier) f
      | d => pure (c.foreignIssues earlier d)
    return own ++ (← definitionsIssues (earlier ++ [d]) ds)

def allIssues : List (Attempt Issue) :=
  c.definitionIssues ++ ((c.definitionsIssues [] c.document).run .start).1 ++ c.unusedFragmentIssues

def mostIssues : Nat := 100

def tooMany : Issue :=
  ⟨[], "Too many validation errors, error limit reached. Validation aborted."⟩

def tooNested : Issue := ⟨[], "Validation aborted."⟩

def nextHeights (known : Heights) : Heights :=
  c.fragments.map fun f => (f.name, 1 + greatestHeight known f.selections)

/-- The heights of fragments; none if they spread each other in a cycle. -/
def heights? : Option Heights :=
  let h := (List.range c.fragments.length).foldl (fun h _ => c.nextHeights h) []
  if c.nextHeights h == h then some h else none

def deepestSelections : Nat := 200

/-- Whether selections nest too deeply, spreads being followed. -/
def isNested : Bool :=
  c.heights?.any fun h =>
    h.any (deepestSelections < ·.2)
      || c.operations.any fun o => deepestSelections < 1 + greatestHeight h o.selections

/-- The issue of the first operation that stops the search. -/
def obstacle? : Option Issue := c.operations.findSome? fun o =>
  match c.subscriptionIssues o with
  | .error i => some i
  | .ok _ => none

/-- The issues up to the one at which the search for more is given up; an obstacle if nothing
can be said of the document. -/
def issues : Except Obstacle (List Issue) :=
  if c.isNested then .ok [tooNested]
  else match c.obstacle? with
    | some i => .error (.issue i)
    | none => do
      let found ← (c.allIssues.take (mostIssues + 1)).mapM (·.mapError .suggestion)
      return if mostIssues < found.length then found.take mostIssues ++ [tooMany] else found

end QueryContext

def Document.issues (s : Schema) (doc : Document Nat) : Except Obstacle (List Issue) :=
  (QueryContext.ofDocument s doc).issues

end Subgraph
