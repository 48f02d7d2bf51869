import Subgraph.Query.Collect
import Subgraph.Schema.Check

/-!
The rules that a document of operations and fragments has to keep against a schema, each as the
issues at the place where it is looked at.
-/

namespace Subgraph.QueryContext
open Suggestion (Attempt)
variable (c : QueryContext)

/-- Every item with the earlier items of its name. -/
def withEarlier {α : Type} (name : α → String) (earlier : List α) :
    List α → List (List α × α)
  | [] => []
  | x :: xs =>
    (earlier.filter (name · == name x), x) :: withEarlier name (earlier ++ [x]) xs

/-- The items whose name came before, each with the first of its name. -/
def again {α : Type} (name : α → String) (xs : List α) : List (α × α) :=
  (withEarlier name [] xs).filterMap fun (earlier, x) => earlier.head?.map (·, x)

/-- The groups of several items of one name. -/
def groups {α : Type} (name : α → String) (xs : List α) : List (String × List α) :=
  (doubled (xs.map name)).map fun n => (n, xs.filter (name · == n))
where
  doubled (names : List String) : List String :=
    names.eraseDups.filter fun n => 1 < names.count n

def notExecutable (mark : Nat) (what : String) : List Issue :=
  [⟨[mark], "The " ++ what ++ " definition is not executable."⟩]

def definitionIssues : List Issue :=
  c.document.flatMap fun
    | .schema _ d => notExecutable d.mark "schema"
    | .extendSchema d => notExecutable d.mark "schema"
    | .type _ d => notExecutable d.mark (Suggestion.quoted d.name)
    | .extendType d => notExecutable d.mark (Suggestion.quoted d.name)
    | .directive d => notExecutable d.mark (Suggestion.quoted d.name)
    | _ => []

def operationNameIssues (earlier : List (Operation Nat)) (o : Operation Nat) : List Issue :=
  o.name.toList.flatMap fun (m, n) =>
    ((earlier.filterMap (·.name)).find? (·.2 == n)).toList.map fun first =>
      ⟨[first.1, m], "There can be only one operation named '" ++ n ++ "'."⟩

def anonymousIssues (o : Operation Nat) : List Issue :=
  if c.operations.length ≤ 1 || o.name.isSome then []
  else [⟨[o.mark], "This anonymous operation must be the only defined operation."⟩]

/-- The issues of a subscription. The search for more is given up where its fields cannot be
told without values of variables. -/
def subscriptionIssues (o : Operation Nat) : Except Issue (List Issue) := do
  if o.kind != .subscription then return []
  match c.operationRoot o with
  | none => return []
  | some root =>
    let what := match o.name with
      | some n => "Subscription '" ++ n.2 ++ "'"
      | none => "Anonymous Subscription"
    let groups ← Scope.fieldsOf ⟨c, []⟩ root o.selections
    let extra := (groups.drop 1).flatMap (·.2)
    let several := if extra.isEmpty then []
      else [⟨extra.map (·.mark), what ++ " must select only one top level field."⟩]
    return several ++ groups.filterMap fun (_, same) =>
      if (same.head?.map (·.name)).any (·.startsWith "__") then
        some ⟨same.map (·.mark), what ++ " must not select an introspection top level field."⟩
      else none

/-- The types that a document defines itself count as known. -/
def definedTypes : List String := c.document.filterMap fun
  | .type _ d => some d.name
  | _ => none

def knownTypes : List String := c.schema.types.map (·.name) ++ c.definedTypes

/-- A name of a type has to be known; `always` are the names that are known wherever it stands. -/
def typeNameIssues (always : List String) (mark : Nat) (name : String) : List (Attempt Issue) :=
  let known := always ++ c.knownTypes
  if known.contains name then []
  else [(Suggestion.didYouMean name known).map fun hint =>
    ⟨[mark], "Unknown type '" ++ name ++ "'." ++ hint⟩]

def isOffComposite (name : String) : Bool :=
  (c.schema.shape? name).any fun s => !s.isComposite

def conditionIssues (mark : Nat) (condition : String) : List Issue :=
  if c.isOffComposite condition then
    [⟨[mark], "Fragment cannot condition on non composite type '" ++ condition ++ "'."⟩]
  else []

def fragmentTypeIssues (f : Fragment Nat) : List Issue :=
  if c.isOffComposite f.condition then
    [⟨[f.conditionMark], "Fragment '" ++ f.name ++ "' cannot condition on non composite type '"
      ++ f.condition ++ "'."⟩]
  else []

def variableTypeIssues (v : VariableDefinition Nat) : List Issue :=
  if (c.schema.shape? v.type.base).all TypeShape.isInput then []
  else [⟨[v.typeMark], "Variable '$" ++ v.name ++ "' cannot be non-input type '" ++ v.type.text
    ++ "'."⟩]

def leafSelectionIssues (def? : Option Field) (n : FieldNode) : List Issue :=
  match def? with
  | none => []
  | some f =>
    let isLeaf := (c.schema.shape? f.type.base).any TypeShape.isLeaf
    if isLeaf && !n.selections.isEmpty then
      [⟨[n.bodyMark], "Field '" ++ n.name ++ "' must not have a selection since type '"
        ++ f.type.text ++ "' has no subfields."⟩]
    else if !isLeaf && n.selections.isEmpty then
      [⟨[n.mark], "Field '" ++ n.name ++ "' of type '" ++ f.type.text
        ++ "' must have a selection of subfields. Did you mean '" ++ n.name
        ++ " \x7b ... \x7d'?"⟩]
    else []

/-- The types below an abstract type that have a field, and their interfaces that have it:
those that occur most come first, then interfaces before the types below them, and else the
names are compared. -/
def typesWithField (t : NamedType) (field : String) : Attempt (List String) := do
  if !t.shape.isAbstract then return []
  let having := fun n => (c.schema.type? n).any fun t => (t.field? field).isSome
  let possible := (c.schema.possibleNames t).filter having
  let interfaces := possible.flatMap fun n =>
    (((c.schema.shape? n).map TypeShape.interfaces).getD []).filter having
  let names := (possible.flatMap fun n =>
    n :: (((c.schema.shape? n).map TypeShape.interfaces).getD []).filter having).eraseDups
  let uses := fun n => (if possible.contains n then 1 else 0) + interfaces.count n
  let isInterface := fun n => (c.schema.shape? n).any TypeShape.isInterface
  let above := fun a b => isInterface a && c.schema.isSubType a b
  let named := fun a b => a != b && uses a == uses b && !above a b && !above b a
  let compared := names.filter fun a => names.any (named a)
  if let some n := compared.findSome? Suggestion.overlong? then throw (.tooLong n)
  return names.mergeSort fun a b =>
    if uses a != uses b then uses b < uses a
    else if above a b then true
    else if above b a then false
    else Suggestion.natural a b != .gt

def fieldHint (t : NamedType) (field : String) : Attempt String := do
  let types := Suggestion.question "to use an inline fragment on" (← c.typesWithField t field)
  if types = "" then Suggestion.didYouMean field (t.shape.fields.map (·.name)) else return types

def unknownFieldIssues (parent : Option NamedType) (def? : Option Field) (n : FieldNode) :
    List (Attempt Issue) :=
  match parent, def? with
  | some t, none => [(c.fieldHint t n.name).map fun hint =>
      ⟨[n.mark], "Cannot query field '" ++ n.name ++ "' on type '" ++ t.name ++ "'." ++ hint⟩]
  | _, _ => []

def fragmentNameIssues (earlier : List (Fragment Nat)) (f : Fragment Nat) : List Issue :=
  (earlier.find? (·.name == f.name)).toList.map fun first =>
    ⟨[first.nameMark, f.nameMark], "There can be only one fragment named '" ++ f.name ++ "'."⟩

def knownFragmentIssues (mark : Nat) (name : String) : List Issue :=
  if (c.fragment? name).isSome then [] else [⟨[mark], "Unknown fragment '" ++ name ++ "'."⟩]

def unusedFragmentIssues : List Issue :=
  let used := c.operations.flatMap fun o => (c.fragmentsOf o).map (·.name)
  (c.fragments.filter fun f => !used.contains f.name).map fun f =>
    ⟨[f.mark], "Fragment '" ++ f.name ++ "' is never used."⟩

def apart (parent inner : Option NamedType) : Option (String × String) :=
  match parent, inner with
  | some a, some b => if c.schema.overlap a b then none else some (a.name, b.name)
  | _, _ => none

/-- The issues of a fragment, inline or spread, where no object can be of both types. -/
def placeIssues (parent inner : Option NamedType) (mark : Nat) (what : String) : List Issue :=
  (c.apart parent inner).toList.map fun (a, b) =>
    ⟨[mark], what ++ " cannot be spread here as objects of type '" ++ a
      ++ "' can never be of type '" ++ b ++ "'."⟩

def inlineIssues (parent : Option NamedType) (mark : Nat) (condition : Option (Nat × String)) :
    List Issue :=
  let inner := match condition with
    | some (_, n) => c.schema.composite? n
    | none => parent
  c.placeIssues parent inner mark "Fragment"

def spreadIssues (parent : Option NamedType) (mark : Nat) (name : String) : List Issue :=
  let inner := (c.fragment? name).bind fun f => c.schema.composite? f.condition
  c.placeIssues parent inner mark ("Fragment '" ++ name ++ "'")

/-- Follows the spreads of a fragment. `path` are the spreads that lead to it, each with the
fragment it stands in. -/
def followSpreads : Nat → List (String × Nat × String) → Fragment Nat →
    List String × List Issue → List String × List Issue
  | 0, _, _, acc => acc
  | fuel + 1, path, f, (visited, issues) =>
    if visited.contains f.name then (visited, issues)
    else (c.spreadsBelow f.selections).foldl (fun acc (m, n) =>
      let path := path ++ [(f.name, m, n)]
      match path.dropWhile (·.1 != n) with
      | [] =>
        match c.fragment? n with
        | some g => followSpreads fuel path g acc
        | none => acc
      | cycle =>
        let via := cycle.dropLast.map fun x => Suggestion.quoted x.2.2
        (acc.1, acc.2 ++ [⟨cycle.map (·.2.1), "Cannot spread fragment '" ++ n
          ++ "' within itself" ++ (if via.isEmpty then "" else " via " ++ ", ".intercalate via)
          ++ "."⟩])) (f.name :: visited, issues)

/-- The cycles of spreads that a fragment starts and no earlier one has shown. -/
def cycleIssues (earlier : List (Fragment Nat)) (f : Fragment Nat) : List Issue :=
  let follow := fun acc f => c.followSpreads (c.fragments.length + 1) [] f acc
  (follow ((earlier.foldl follow ([], [])).1, []) f).2

def variableNameIssues (o : Operation Nat) : List Issue :=
  (groups (·.name) o.variableDefinitions).map fun (n, vs) =>
    ⟨vs.map (·.nameMark), "There can be only one variable named '$" ++ n ++ "'."⟩

end Subgraph.QueryContext
