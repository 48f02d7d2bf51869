import Subgraph.Query.Values
import Subgraph.Schema.Builtin

/-!
Collecting the fields that selections give to an object. Directives may leave a selection out,
a fragment applies to some types only, and it is entered once.
-/

namespace Subgraph

/-- What the names in an operation stand for: fragments, and variables by their values. -/
structure Scope where
  query : QueryContext
  bindings : Variables

/-- How deeply selections can nest where spreads are followed and fragments entered once. -/
def QueryContext.topDepth (c : QueryContext) : Nat := c.sites.length + c.fragments.length + 1

abbrev FieldGroups := List (String × List FieldNode)

def FieldGroups.add (groups : FieldGroups) (n : FieldNode) : FieldGroups :=
  match groups with
  | [] => [(n.key, [n])]
  | (k, ns) :: r => if k = n.key then (k, ns ++ [n]) :: r else (k, ns) :: FieldGroups.add r n

namespace Scope
variable (sc : Scope)

def failAt (positions : List Nat) (message : String) : Except Issue (Option Value) :=
  .error ⟨positions, message⟩

/-- The value of an argument by its literal; none leaves it out. -/
def argumentValue (d : InputValue) (a? : Option (Argument Nat)) :
    Except Issue (Option Value) :=
  let absent := fun (positions : List Nat) (message : String) =>
    match d.default sc.query.schema with
    | some v => .ok (some v)
    | none => if d.type.isNonNull then failAt positions message else .ok none
  let required := "Argument '" ++ d.name ++ "' of required type '" ++ d.type.text ++ "' was "
  match a? with
  | none => absent [] (required ++ "not provided.")
  | some a =>
    let given : Except Issue (Option Value) :=
      let isNull := match a.value with
        | .null _ => true
        | .variable _ n => (Entries.get? sc.bindings n).any Value.isNull
        | _ => false
      if isNull && d.type.isNonNull then
        failAt [a.value.mark] ("Argument '" ++ d.name ++ "' of non-null type '" ++ d.type.text
          ++ "' must not be null.")
      else match a.value.coerce? sc.query.schema sc.bindings d.type with
        | some v => .ok (some v)
        | none => failAt [a.value.mark] ("Argument '" ++ d.name ++ "' has invalid value "
            ++ a.value.print ++ ".")
    match a.value with
    | .variable m n =>
      if Entries.has sc.bindings n then given
      else absent [m] (required ++ "provided the variable '$" ++ n
        ++ "' which was not provided a runtime value.")
    | _ => given

/-- The values of arguments in the order of their definitions. -/
def argumentValues (as : List (Argument Nat)) : List InputValue → Except Issue (Entries Value)
  | [] => .ok []
  | d :: ds => do
    let v? ← sc.argumentValue d (as.reverse.find? (·.name == d.name))
    let rest ← argumentValues as ds
    return match v? with
      | some v => (d.name, v) :: rest
      | none => rest

/-- The condition that a directive gives, if it is there. -/
def condition? (name : String) (ds : List (Directive Nat)) : Except Issue (Option Bool) :=
  match ds.find? (·.name == name) with
  | none => .ok none
  | some d => do
    let defs := (Builtin.directives.filter (·.name == name)).flatMap (·.arguments)
    let vs ← sc.argumentValues d.arguments defs
    return some ((Entries.get? vs "if").any Value.isTruthy)

def isIncluded (ds : List (Directive Nat)) : Except Issue Bool := do
  if (← sc.condition? "skip" ds) = some true then return false
  return (← sc.condition? "include" ds) != some false

/-- Whether selections on a type apply to objects of another. -/
def applies (type : NamedType) (condition : String) : Bool :=
  condition == type.name || sc.query.schema.isSubType condition type.name

/-- Collects the fields of selections for objects of a type. The names are those of the
fragments that were entered before. -/
def collect (type : NamedType) : Nat → List (Selection Nat) → List String × FieldGroups →
    Except Issue (List String × FieldGroups)
  | 0, _, acc => .ok acc
  | fuel + 1, ss, acc => ss.foldlM (fun acc x => do
      match x with
      | .field m l n as ds bm body =>
        if ← sc.isIncluded ds then return (acc.1, acc.2.add ⟨m, l, n, as, ds, bm, body⟩)
        else return acc
      | .inline _ c ds body =>
        if !(← sc.isIncluded ds) then return acc
        if c.all fun c => sc.applies type c.2 then collect type fuel body acc else return acc
      | .spread _ _ n ds =>
        if acc.1.contains n || !(← sc.isIncluded ds) then return acc
        let acc := (n :: acc.1, acc.2)
        match sc.query.fragment? n with
        | some f =>
          if sc.applies type f.condition then collect type fuel f.selections acc
          else return acc
        | none => return acc) acc

/-- The fields of selections for objects of a type. -/
def fieldsOf (type : NamedType) (ss : List (Selection Nat)) : Except Issue FieldGroups := do
  return (← sc.collect type sc.query.topDepth ss ([], [])).2

/-- The fields below several fields of one key. -/
def fieldsBelow (type : NamedType) (nodes : List FieldNode) : Except Issue FieldGroups := do
  let r ← nodes.foldlM (fun acc n => sc.collect type sc.query.topDepth n.selections acc) ([], [])
  return r.2

end Scope
end Subgraph
