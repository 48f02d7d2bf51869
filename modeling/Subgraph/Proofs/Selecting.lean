import Subgraph.Proofs.Coercion
import Subgraph.Query.Collect

/-!
# What is selected in two scopes

Two scopes with the same fragments collect the same fields, as long as they read the conditions of
the directives alike and agree on which fragments apply. What holds of every field of the selections
and the fragments holds of every field that is collected.
-/

namespace Subgraph

mutual

/-- Every field of a selection, at whatever depth, all directives of it and all types that it is
confined to are accepted. -/
def Selection.Every (p : FieldNode → Prop) (q : Directive Nat → Prop) (w : String → Prop) :
    Selection Nat → Prop
  | .field m l n as ds bm body =>
    p ⟨m, l, n, as, ds, bm, body⟩ ∧ (∀ d ∈ ds, q d) ∧ EverySelection p q w body
  | .spread _ _ _ ds => ∀ d ∈ ds, q d
  | .inline _ c ds body => (∀ n ∈ c, w n.2) ∧ (∀ d ∈ ds, q d) ∧ EverySelection p q w body

def EverySelection (p : FieldNode → Prop) (q : Directive Nat → Prop) (w : String → Prop) :
    List (Selection Nat) → Prop
  | [] => True
  | x :: xs => x.Every p q w ∧ EverySelection p q w xs

end

section Decide
variable (p : FieldNode → Prop) (q : Directive Nat → Prop) (w : String → Prop) [DecidablePred p]
  [DecidablePred q] [DecidablePred w]

mutual

def Selection.decideEvery : (x : Selection Nat) → Decidable (x.Every p q w)
  | .field m l n as ds bm body =>
    have := decideEverySelection body
    inferInstanceAs (Decidable (p ⟨m, l, n, as, ds, bm, body⟩ ∧ (∀ d ∈ ds, q d)
      ∧ EverySelection p q w body))
  | .spread _ _ _ ds => inferInstanceAs (Decidable (∀ d ∈ ds, q d))
  | .inline _ c ds body =>
    have := decideEverySelection body
    inferInstanceAs (Decidable ((∀ n ∈ c, w n.2) ∧ (∀ d ∈ ds, q d) ∧ EverySelection p q w body))

def decideEverySelection : (xs : List (Selection Nat)) → Decidable (EverySelection p q w xs)
  | [] => isTrue trivial
  | x :: xs =>
    have := x.decideEvery
    have := decideEverySelection xs
    inferInstanceAs (Decidable (x.Every p q w ∧ EverySelection p q w xs))

end

instance (xs : List (Selection Nat)) : Decidable (EverySelection p q w xs) :=
  decideEverySelection p q w xs

end Decide

/-- A field that is accepted with all that is selected below it. -/
def FieldNode.Every (p : FieldNode → Prop) (q : Directive Nat → Prop) (w : String → Prop)
    (n : FieldNode) : Prop :=
  p n ∧ EverySelection p q w n.selections

/-- All variables in the arguments of a directive are accepted. -/
def Directive.VariablesIn (ok : String → Prop) (d : Directive Nat) : Prop :=
  ∀ a ∈ d.arguments, a.value.VariablesIn ok

namespace FieldGroups

theorem mem_add {groups : FieldGroups} {n : FieldNode} {p : FieldNode → Prop} (hn : p n)
    (hgroups : ∀ g ∈ groups, ∀ m ∈ g.2, p m) : ∀ g ∈ groups.add n, ∀ m ∈ g.2, p m := by
  induction groups with
  | nil =>
    intro g hg m hm
    rw [List.mem_singleton.mp hg] at hm
    rw [List.mem_singleton.mp hm]
    exact hn
  | cons g groups ih =>
    obtain ⟨k, ns⟩ := g
    have hfirst := hgroups (k, ns) List.mem_cons_self
    have hrest : ∀ g ∈ groups, ∀ m ∈ g.2, p m :=
      fun g hg => hgroups g (List.mem_cons_of_mem _ hg)
    intro g hg m hm
    rw [add] at hg
    split at hg
    · rcases List.mem_cons.mp hg with rfl | hg
      · rcases List.mem_append.mp hm with hm | hm
        · exact hfirst m hm
        · rw [List.mem_singleton.mp hm]
          exact hn
      · exact hrest g hg m hm
    · rcases List.mem_cons.mp hg with rfl | hg
      · exact hfirst m hm
      · exact ih hrest g hg m hm

end FieldGroups

namespace Scope

/-- Two scopes read the arguments of known types alike where all variables are accepted. -/
structure SameArguments (change : InputValue → InputValue) (known ok : String → Prop)
    (sc sc' : Scope) : Prop where
  reading : SameReading change known ok sc.query.schema sc'.query.schema sc.bindings sc'.bindings
    (sc.query.schema.fieldDefault (sc.query.schema.types.length + 1))
    (sc'.query.schema.fieldDefault (sc'.query.schema.types.length + 1))
  default : ∀ v, known v.type.base → (change v).default sc'.query.schema = v.default sc.query.schema

section Arguments
variable {change : InputValue → InputValue} {known ok : String → Prop} {sc sc' : Scope}

theorem argumentValue_same (h : SameArguments change known ok sc sc') {d : InputValue}
    (hd : known d.type.base) (a? : Option (Argument Nat))
    (ha : ∀ a, a? = some a → a.value.VariablesIn ok) :
    sc'.argumentValue (change d) a? = sc.argumentValue d a? := by
  cases a? with
  | none => simp only [argumentValue, h.reading.rebuilt.name, h.reading.rebuilt.type, h.default d hd]
  | some a =>
    have hok := ha a rfl
    have hcoerce : a.value.coerce? sc'.query.schema sc'.bindings d.type
        = a.value.coerce? sc.query.schema sc.bindings d.type :=
      Literal.valueWith_same h.reading a.value hok d.type hd
    simp only [argumentValue, h.reading.rebuilt.name, h.reading.rebuilt.type, h.default d hd, hcoerce]
    obtain ⟨m, n, v⟩ := a
    match v, hok with
    | .variable _ x, hok => simp only [Entries.has_eq_isSome, h.reading.bindings x hok]
    | .int .., _ | .float .., _ | .string .., _ | .bool .., _ | .null .., _ | .enum .., _
    | .list .., _ | .object .., _ => rfl

theorem argumentValues_same (h : SameArguments change known ok sc sc') {as : List (Argument Nat)}
    (has : ∀ a ∈ as, a.value.VariablesIn ok) (ds : List InputValue)
    (hds : ∀ d ∈ ds, known d.type.base) :
    sc'.argumentValues as (ds.map change) = sc.argumentValues as ds := by
  induction ds with
  | nil => rfl
  | cons d ds ih =>
    have hd := hds d List.mem_cons_self
    have hrest := ih fun d hd => hds d (List.mem_cons_of_mem _ hd)
    have hvalue := argumentValue_same h hd (as.reverse.find? (·.name == d.name))
      fun a ha => has a (List.mem_reverse.mp (List.mem_of_find?_eq_some ha))
    simp only [List.map_cons, argumentValues, h.reading.rebuilt.name, hvalue, hrest]

/-- The argument of the directives that leave selections out. -/
def isCondition (v : InputValue) : Prop := v.type = .nonNull (.named "Boolean") ∧ v.default? = none

theorem condition_arguments {name : String} (hname : name = "skip" ∨ name = "include") :
    ∀ v ∈ (Builtin.directives.filter (·.name == name)).flatMap (·.arguments), isCondition v := by
  rcases hname with rfl | rfl
  all_goals
    simp [Builtin.directives, Builtin.input, Builtin.required, isCondition]

theorem condition?_same (h : SameArguments change known ok sc sc')
    (hchange : ∀ v, isCondition v → change v = v) (hboolean : known "Boolean")
    {name : String} (hname : name = "skip" ∨ name = "include") {ds : List (Directive Nat)}
    (hds : ∀ d ∈ ds, d.VariablesIn ok) : sc'.condition? name ds = sc.condition? name ds := by
  unfold condition?
  cases hd : ds.find? (·.name == name) with
  | none => rfl
  | some d =>
    have hdefs := condition_arguments hname
    have hok : d.VariablesIn ok := hds d (List.mem_of_find?_eq_some hd)
    have hsame : ((Builtin.directives.filter (·.name == name)).flatMap (·.arguments)).map change
        = (Builtin.directives.filter (·.name == name)).flatMap (·.arguments) :=
      (List.map_congr_left fun v hv => hchange v (hdefs v hv)).trans (List.map_id _)
    have hvalues := argumentValues_same h hok
      ((Builtin.directives.filter (·.name == name)).flatMap (·.arguments))
      fun v hv => by rw [(hdefs v hv).1]; exact hboolean
    rw [hsame] at hvalues
    simp only [hvalues]

theorem isIncluded_same (h : SameArguments change known ok sc sc')
    (hchange : ∀ v, isCondition v → change v = v) (hboolean : known "Boolean")
    {ds : List (Directive Nat)} (hds : ∀ d ∈ ds, d.VariablesIn ok) :
    sc'.isIncluded ds = sc.isIncluded ds := by
  unfold isIncluded
  rw [condition?_same h hchange hboolean (.inl rfl) hds,
    condition?_same h hchange hboolean (.inr rfl) hds]

end Arguments

/-- How one selection adds to the fields that were collected, where `rest` collects those of
selections below it. -/
def collectOne (sc : Scope) (type : NamedType)
    (rest : List (Selection Nat) → List String × FieldGroups →
      Except Issue (List String × FieldGroups))
    (acc : List String × FieldGroups) : Selection Nat → Except Issue (List String × FieldGroups)
  | .field m l n as ds bm body => do
    if ← sc.isIncluded ds then return (acc.1, acc.2.add ⟨m, l, n, as, ds, bm, body⟩)
    else return acc
  | .inline _ c ds body => do
    if !(← sc.isIncluded ds) then return acc
    if c.all fun c => sc.applies type c.2 then rest body acc else return acc
  | .spread _ _ n ds => do
    if acc.1.contains n || !(← sc.isIncluded ds) then return acc
    let acc := (n :: acc.1, acc.2)
    match sc.query.fragment? n with
    | some f => if sc.applies type f.condition then rest f.selections acc else return acc
    | none => return acc

theorem collect_succ (sc : Scope) (type : NamedType) (fuel : Nat) (ss : List (Selection Nat))
    (acc : List String × FieldGroups) :
    sc.collect type (fuel + 1) ss acc = ss.foldlM (sc.collectOne type (sc.collect type fuel)) acc := by
  rw [collect]
  refine foldlM_eq_of_mem (fun x _ acc => ?_) acc
  cases x <;> rfl

/-- What two scopes need for collecting the same fields for objects of two types. -/
structure Agree (p : FieldNode → Prop) (q : Directive Nat → Prop) (w : String → Prop)
    (sc sc' : Scope) (t t' : NamedType) : Prop where
  fragments : sc'.query.fragments = sc.query.fragments
  depth : sc'.query.topDepth = sc.query.topDepth
  accepted : ∀ f ∈ sc.query.fragments, w f.condition ∧ EverySelection p q w f.selections
  included : ∀ ds, (∀ d ∈ ds, q d) → sc'.isIncluded ds = sc.isIncluded ds
  applies : ∀ c, w c → sc'.applies t' c = sc.applies t c

section Collecting
variable {p : FieldNode → Prop} {q : Directive Nat → Prop} {w : String → Prop} {sc sc' : Scope}
  {t t' : NamedType}

theorem mem_everySelection {ss : List (Selection Nat)} (h : EverySelection p q w ss) :
    ∀ x ∈ ss, x.Every p q w := by
  induction ss with
  | nil => exact fun x hx => by cases hx
  | cons y ss ih =>
    obtain ⟨hy, hss⟩ := h
    intro x hx
    rcases List.mem_cons.mp hx with rfl | hx
    · exact hy
    · exact ih hss x hx

theorem Agree.fragment? (h : Agree p q w sc sc' t t') (n : String) :
    sc'.query.fragment? n = sc.query.fragment? n := by
  rw [QueryContext.fragment?, QueryContext.fragment?, h.fragments]

theorem Agree.mem_fragment? (h : Agree p q w sc sc' t t') {n : String} {f : Fragment Nat}
    (hf : sc.query.fragment? n = some f) : w f.condition ∧ EverySelection p q w f.selections :=
  h.accepted f (List.mem_reverse.mp (List.mem_of_find?_eq_some hf))

theorem Agree.collectOne (h : Agree p q w sc sc' t t')
    {rest rest' : List (Selection Nat) → List String × FieldGroups →
      Except Issue (List String × FieldGroups)}
    (hrest : ∀ ss acc, EverySelection p q w ss → rest' ss acc = rest ss acc)
    {x : Selection Nat} (hx : x.Every p q w) (acc : List String × FieldGroups) :
    sc'.collectOne t' rest' acc x = sc.collectOne t rest acc x := by
  cases x with
  | field m l n as ds bm body => simp only [Scope.collectOne, h.included ds hx.2.1]
  | inline m c ds body =>
    obtain ⟨hcondition, hds, hbody⟩ := hx
    have happlies : (c.all fun c => sc'.applies t' c.2) = c.all fun c => sc.applies t c.2 := by
      cases c with
      | none => rfl
      | some c => exact h.applies c.2 (hcondition c rfl)
    simp only [Scope.collectOne, h.included ds hds, happlies, hrest body acc hbody]
  | spread m nm n ds =>
    simp only [Scope.collectOne, h.included ds hx, h.fragment?]
    cases hf : sc.query.fragment? n with
    | none => rfl
    | some f =>
      obtain ⟨hcondition, hbody⟩ := h.mem_fragment? hf
      simp only [h.applies f.condition hcondition, hrest f.selections _ hbody]

theorem Agree.collect (h : Agree p q w sc sc' t t') (fuel : Nat) {ss : List (Selection Nat)}
    (hss : EverySelection p q w ss) (acc : List String × FieldGroups) :
    sc'.collect t' fuel ss acc = sc.collect t fuel ss acc := by
  induction fuel generalizing ss acc with
  | zero => rfl
  | succ fuel ih =>
    rw [collect_succ, collect_succ]
    refine foldlM_eq_of_mem (fun x hx acc => ?_) acc
    exact h.collectOne (fun ss acc hss => ih hss acc) (mem_everySelection hss x hx) acc

/-- All fields that were collected are accepted with what is below them. -/
def Collected (p : FieldNode → Prop) (q : Directive Nat → Prop) (w : String → Prop)
    (groups : FieldGroups) : Prop :=
  ∀ g ∈ groups, ∀ n ∈ g.2, n.Every p q w

theorem Agree.collectOne_accepted (h : Agree p q w sc sc' t t')
    {rest : List (Selection Nat) → List String × FieldGroups →
      Except Issue (List String × FieldGroups)}
    (hrest : ∀ ss acc acc', EverySelection p q w ss → Collected p q w acc.2 → rest ss acc = .ok acc' →
      Collected p q w acc'.2)
    {x : Selection Nat} (hx : x.Every p q w) {acc acc' : List String × FieldGroups}
    (hacc : Collected p q w acc.2) (hrun : sc.collectOne t rest acc x = .ok acc') :
    Collected p q w acc'.2 := by
  cases x with
  | field m l n as ds bm body =>
    simp only [Scope.collectOne] at hrun
    cases hi : sc.isIncluded ds with
    | error i => rw [hi] at hrun; cases hrun
    | ok included =>
      rw [hi] at hrun
      cases included with
      | false => cases hrun; exact hacc
      | true => cases hrun; exact FieldGroups.mem_add ⟨hx.1, hx.2.2⟩ hacc
  | inline m c ds body =>
    simp only [Scope.collectOne] at hrun
    cases hi : sc.isIncluded ds with
    | error i => rw [hi] at hrun; cases hrun
    | ok included =>
      rw [hi] at hrun
      cases included with
      | false => cases hrun; exact hacc
      | true =>
        cases hc : c.all fun c => sc.applies t c.2 with
        | false => simp only [hc] at hrun; cases hrun; exact hacc
        | true => simp only [hc] at hrun; exact hrest body acc acc' hx.2.2 hacc hrun
  | spread m nm n ds =>
    -- A spread adds what its fragment selects, unless it is left out or the fragment was entered before.
    have hentered : sc.collectOne t rest acc (.spread m nm n ds) =
        (sc.isIncluded ds).bind fun included =>
          if acc.1.contains n || !included then .ok acc
          else match sc.query.fragment? n with
            | some f =>
              if sc.applies t f.condition then rest f.selections (n :: acc.1, acc.2)
              else .ok (n :: acc.1, acc.2)
            | none => .ok (n :: acc.1, acc.2) := rfl
    rw [hentered] at hrun
    cases hi : sc.isIncluded ds with
    | error i => rw [hi] at hrun; cases hrun
    | ok included =>
      rw [hi, Except.bind] at hrun
      split at hrun
      · cases hrun
        exact hacc
      · cases hf : sc.query.fragment? n with
        | none => rw [hf] at hrun; cases hrun; exact hacc
        | some f =>
          simp only [hf] at hrun
          split at hrun
          · exact hrest f.selections (n :: acc.1, acc.2) acc' (h.mem_fragment? hf).2 hacc hrun
          · cases hrun
            exact hacc

theorem Agree.collect_accepted (h : Agree p q w sc sc' t t') (fuel : Nat) {ss : List (Selection Nat)}
    (hss : EverySelection p q w ss) {acc acc' : List String × FieldGroups}
    (hacc : Collected p q w acc.2) (hrun : sc.collect t fuel ss acc = .ok acc') :
    Collected p q w acc'.2 := by
  induction fuel generalizing ss acc acc' with
  | zero =>
    cases hrun
    exact hacc
  | succ fuel ih =>
    rw [collect_succ] at hrun
    refine foldlM_keeps (I := fun acc => Collected p q w acc.2) (fun x hx b b' hb hstep => ?_) hacc hrun
    exact h.collectOne_accepted (fun ss acc acc' hss hacc hrun => ih hss hacc hrun)
      (mem_everySelection hss x hx) hb hstep

theorem Agree.fieldsBelow (h : Agree p q w sc sc' t t') {nodes : List FieldNode}
    (hnodes : ∀ n ∈ nodes, EverySelection p q w n.selections) :
    sc'.fieldsBelow t' nodes = sc.fieldsBelow t nodes
      ∧ ∀ groups, sc.fieldsBelow t nodes = .ok groups → Collected p q w groups := by
  unfold Scope.fieldsBelow
  constructor
  · rw [foldlM_eq_of_mem (g := fun acc n => sc.collect t sc.query.topDepth n.selections acc)]
    intro n hn acc
    rw [h.depth]
    exact h.collect _ (hnodes n hn) acc
  · intro groups hgroups
    cases hr : nodes.foldlM (fun acc n => sc.collect t sc.query.topDepth n.selections acc) ([], []) with
    | error i => rw [hr] at hgroups; cases hgroups
    | ok acc =>
      rw [hr] at hgroups
      cases hgroups
      refine foldlM_keeps (I := fun acc => Collected p q w acc.2) (fun n hn b b' hb hstep => ?_)
        (fun g hg => by cases hg) hr
      exact h.collect_accepted _ (hnodes n hn) hb hstep

theorem Agree.fieldsOf (h : Agree p q w sc sc' t t') {ss : List (Selection Nat)}
    (hss : EverySelection p q w ss) :
    sc'.fieldsOf t' ss = sc.fieldsOf t ss
      ∧ ∀ groups, sc.fieldsOf t ss = .ok groups → Collected p q w groups := by
  unfold Scope.fieldsOf
  rw [h.depth, h.collect _ hss]
  refine ⟨rfl, fun groups hgroups => ?_⟩
  cases hr : sc.collect t sc.query.topDepth ss ([], []) with
  | error i => rw [hr] at hgroups; cases hgroups
  | ok acc =>
    rw [hr] at hgroups
    cases hgroups
    exact h.collect_accepted _ hss (fun g hg => by cases hg) hr

end Collecting
end Scope
end Subgraph
