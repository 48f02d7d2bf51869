import Subgraph.Query.Arguments

/-!
Fields that share a response key have to agree, within a selection set and across the fragments
that it spreads.

Two fields agree if they are the same field with the same arguments, or can never meet in one
object, and if what they return has the same form. The search remembers which fragments it has
compared and which issues it has found, so that no issue is found twice.
-/

namespace Subgraph.Overlap

structure Entry where
  parent : Option NamedType
  node : FieldNode
  def? : Option Field

/-- The fields of a selection set by response key, and the fragments that it spreads. The
owner is the fragment whose selection set it is. -/
structure Collected where
  owner : Option String
  fields : List (String × List Entry)
  spreads : List String

def addField (fields : List (String × List Entry)) (key : String) (e : Entry) :
    List (String × List Entry) :=
  match fields with
  | [] => [(key, [e])]
  | (k, es) :: r => if k = key then (k, es ++ [e]) :: r else (k, es) :: addField r key e

mutual
def addSelection (s : Schema) (parent : Option NamedType) (acc : Collected) :
    Selection Nat → Collected
  | .field m l n as ds bm ss =>
    let node : FieldNode := ⟨m, l, n, as, ds, bm, ss⟩
    let def? := parent.bind (·.field? n)
    { acc with fields := addField acc.fields node.key ⟨parent, node, def?⟩ }
  | .spread _ _ n _ =>
    if acc.spreads.contains n then acc else { acc with spreads := acc.spreads ++ [n] }
  | .inline _ c _ ss =>
    let inner := match c with
      | some (_, n) => s.type? n
      | none => parent
    addSelections s inner acc ss
def addSelections (s : Schema) (parent : Option NamedType) (acc : Collected) :
    List (Selection Nat) → Collected
  | [] => acc
  | x :: xs => addSelections s parent (addSelection s parent acc x) xs
end

def collect (s : Schema) (parent : Option NamedType) (owner : Option String)
    (ss : List (Selection Nat)) : Collected := addSelections s parent ⟨owner, [], []⟩ ss

structure Conflict where
  key : String
  reason : String
  first : List Nat
  second : List Nat

def Conflict.asSubfield (c : Conflict) : String :=
  "subfields '" ++ c.key ++ "' conflict because " ++ c.reason

/-- The conflict of two fields whose selections conflict. -/
def ofSubfields (key : String) (a b : FieldNode) (cs : List Conflict) : Option Conflict :=
  if cs.isEmpty then none
  else some ⟨key, " and ".intercalate (cs.map Conflict.asSubfield),
    a.mark :: cs.flatMap (·.first), b.mark :: cs.flatMap (·.second)⟩

mutual
/-- A literal with the fields of objects in the order of their names. -/
def sorted : Literal Nat → Literal Nat
  | .list m xs => .list m (sortedItems xs)
  | .object m fs => .object m ((sortedFields fs).mergeSort fun a b =>
      Suggestion.natural a.2.1 b.2.1 != .gt)
  | l => l
def sortedItems : List (Literal Nat) → List (Literal Nat)
  | [] => []
  | x :: xs => sorted x :: sortedItems xs
def sortedFields : List (Nat × String × Literal Nat) → List (Nat × String × Literal Nat)
  | [] => []
  | (m, n, v) :: r => (m, n, sorted v) :: sortedFields r
end

def argumentsText (n : FieldNode) : String :=
  (sorted (.object 0 (n.arguments.map fun a => (a.mark, a.name, a.value)))).print

/-- Whether values of two types can never have the same form. -/
def typesConflict (s : Schema) : TypeRef → TypeRef → Bool
  | .list a, .list b => typesConflict s a b
  | .nonNull a, .nonNull b => typesConflict s a b
  | .named a, .named b =>
    let isLeaf := fun n => (s.shape? n).any TypeShape.isLeaf
    (isLeaf a || isLeaf b) && a != b
  | _, _ => true

/-- Pairs of fragments that were compared, and whether only as fields of types that never
meet. -/
abbrev Compared := List (String × String × Bool)

def pair (a b : String) : String × String := if a < b then (a, b) else (b, a)

def wasCompared (seen : Compared) (a b : String) (apart : Bool) : Bool :=
  let p := pair a b
  match seen.find? fun x => x.1 == p.1 && x.2.1 == p.2 with
  | some x => apart || !x.2.2
  | none => false

def remember (seen : Compared) (a b : String) (apart : Bool) : Compared :=
  let p := pair a b
  (p.1, p.2, apart) :: seen

structure Progress where
  compared : Compared
  found : List Issue

namespace Progress

def start : Progress := ⟨[], []⟩

def has (p : Progress) (a b : String) (apart : Bool) : Bool := wasCompared p.compared a b apart

def add (p : Progress) (a b : String) (apart : Bool) : Progress :=
  { p with compared := remember p.compared a b apart }

end Progress

abbrev Search := StateM Progress

section
variable (c : QueryContext)

def fragmentFields? (name : String) : Option Collected :=
  (c.fragment? name).map fun f =>
    collect c.schema (c.schema.type? f.condition) (some name) f.selections

def bothObjects (a b : Option NamedType) : Bool :=
  match a, b with
  | some a, some b => a.name != b.name && a.shape.isObject && b.shape.isObject
  | _, _ => false

/-- The conflicts of every item of a list with what is found for it. -/
def gatherAll {α : Type} (f : α → Search (List Conflict)) : List α → Search (List Conflict)
  | [] => return []
  | x :: xs => do return (← f x) ++ (← gatherAll f xs)

def pairsOf {α : Type} : List α → List (α × α)
  | [] => []
  | x :: xs => xs.map (x, ·) ++ pairsOf xs

mutual
def conflict? (fuel : Nat) (parentsApart : Bool) (key : String) (a b : Entry) :
    Search (Option Conflict) :=
  match fuel with
  | 0 => return none
  | fuel + 1 => do
    let apart := parentsApart || bothObjects a.parent b.parent
    let plain := fun reason => some (Conflict.mk key reason [a.node.mark] [b.node.mark])
    if !apart && a.node.name != b.node.name then
      return plain ("'" ++ a.node.name ++ "' and '" ++ b.node.name ++ "' are different fields")
    if !apart && argumentsText a.node != argumentsText b.node then
      return plain "they have differing arguments"
    match a.def?, b.def? with
    | some f, some g =>
      if typesConflict c.schema f.type g.type then
        return plain ("they return conflicting types '" ++ f.type.text ++ "' and '"
          ++ g.type.text ++ "'")
    | _, _ => pure ()
    if a.node.selections.isEmpty || b.node.selections.isEmpty then return none
    let inner := fun (e : Entry) => collect c.schema
      (e.def?.bind fun f => c.schema.type? f.type.base) none e.node.selections
    return ofSubfields key a.node b.node (← between fuel apart (inner a) (inner b))
/-- The conflicts between two selection sets. -/
def between (fuel : Nat) (apart : Bool) (a b : Collected) : Search (List Conflict) :=
  match fuel with
  | 0 => return []
  | fuel + 1 => do
    let own ← fieldsBetween fuel apart a b
    let right ← gatherAll (fieldsAndFragment fuel apart a) b.spreads
    let left ← gatherAll (fieldsAndFragment fuel apart b) a.spreads
    let spread ← gatherAll (fun m => gatherAll (fragments fuel apart m) b.spreads) a.spreads
    return own ++ right ++ left ++ spread
def fieldsBetween (fuel : Nat) (apart : Bool) (a b : Collected) : Search (List Conflict) :=
  match fuel with
  | 0 => return []
  | fuel + 1 =>
    gatherAll (fun (key, es) => gatherAll (fun e => gatherAll (fun g => do
      return (← conflict? fuel apart key e g).toList) ((b.fields.lookup key).getD [])) es) a.fields
def fieldsAndFragment (fuel : Nat) (apart : Bool) (a : Collected) (name : String) :
    Search (List Conflict) :=
  match fuel with
  | 0 => return []
  | fuel + 1 =>
    match fragmentFields? c name with
    | none => return []
    | some b =>
      if a.owner = some name then return [] else do
      let own ← fieldsBetween fuel apart a b
      let more ← gatherAll (fun n => do
        if (← get).has n name apart then return []
        modify (·.add n name apart)
        fieldsAndFragment fuel apart a n) b.spreads
      return own ++ more
def fragments (fuel : Nat) (apart : Bool) (m n : String) : Search (List Conflict) :=
  match fuel with
  | 0 => return []
  | fuel + 1 => do
    if m = n || (← get).has m n apart then return []
    modify (·.add m n apart)
    match fragmentFields? c m, fragmentFields? c n with
    | some a, some b =>
      let own ← fieldsBetween fuel apart a b
      let right ← gatherAll (fragments fuel apart m) b.spreads
      let left ← gatherAll (fun k => fragments fuel apart k n) a.spreads
      return own ++ right ++ left
    | _, _ => return []
end

/-- The conflicts within a selection set. -/
def within (fuel : Nat) (a : Collected) : Search (List Conflict) := do
  let own ← gatherAll (fun (key, es) => gatherAll (fun (e, g) => do
    return (← conflict? c fuel false key e g).toList) (pairsOf es)) a.fields
  let spread ← gatherAll (fun (n, rest) => do
    let one ← fieldsAndFragment c fuel false a n
    let more ← gatherAll (fragments c fuel false n) rest
    return one ++ more) (withRest a.spreads)
  return own ++ spread
where
  withRest : List String → List (String × List String)
    | [] => []
    | n :: ns => (n, ns) :: withRest ns

def longestPart : Nat := 1000

/-- A part of a message, cut where it gets too long. -/
def cut (s : String) : String :=
  if s.length ≤ longestPart then s else String.ofList (s.toList.take longestPart) ++ "..."

def issueOf (x : Conflict) : Issue :=
  ⟨x.first ++ x.second, "Fields '" ++ cut x.key ++ "' conflict because " ++ cut x.reason
    ++ ". Use different aliases on the fields to fetch both if this was intentional."⟩

/-- The issues of a selection set that are not found yet. -/
def issues (parent : Option NamedType) (owner : Option String) (ss : List (Selection Nat)) :
    Search (List Issue) := do
  let fuel := 4 * (c.sites.length + c.fragments.length + 2)
  let found := (← get).found
  let new := (← within c fuel (collect c.schema parent owner ss)).map issueOf
  let new := new.eraseDups.filter (!found.contains ·)
  modify fun p => { p with found := p.found ++ new }
  return new

end
end Subgraph.Overlap
