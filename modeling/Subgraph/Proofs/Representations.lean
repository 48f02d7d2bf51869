import Subgraph.Federation.Resolution
import Subgraph.Proofs.Gathering
import Subgraph.Proofs.Lists
import Subgraph.Query.Variables

/-!
# Representations one by one

Where reference functions answer by the representation and the request alone, a list of
representations is resolved one by one: what becomes of one depends neither on the others nor on how
many calls there were before. A list that is given as a variable is taken as it is.
-/

namespace Subgraph

namespace Federation

/-- A function that answers by the representation and the request alone. An answer that comes later
can be waited for, and it is no interruption. -/
structure Reference.Plain (waits : Bool) (f : Reference) : Prop where
  steady : ∀ n n' rep r, f.answer n rep r = f.answer n' rep r
  later : ∀ n rep r k start finish o, f.answer n rep r = .later k start finish o →
    waits = true ∧ ∀ e, o ≠ .interrupted e

def Classification.Plain (waits : Bool) (c : Classification) : Prop :=
  ∀ t ∈ c.types, ∀ f, t.settings.reference = some f → f.Plain waits

section Resolving
variable {s : Schema} {c : Classification} {r : Request} {waits : Bool}

theorem referenceFor_mem {rep : Value} {type : String} {f : Reference}
    (h : referenceFor s c rep = .ok (type, some f)) :
    ∃ t ∈ c.types, t.settings.reference = some f := by
  unfold referenceFor at h
  obtain ⟨n, -, h⟩ := Except.of_bind_ok h
  obtain ⟨t?, ht, h⟩ := Except.of_bind_ok h
  cases t? with
  | none => cases h
  | some t =>
    obtain ⟨_, -, h⟩ := Except.of_bind_ok h
    refine ⟨t, ?_, (Prod.mk.inj (Except.ok.inj h)).2⟩
    unfold lookup at ht
    cases hg : c.get? n with
    | some t' =>
      rw [hg] at ht
      cases ht
      exact List.mem_of_find?_eq_some hg
    | none =>
      rw [hg] at ht
      cases hs : s.type? n with
      | none => rw [hs] at ht; cases ht
      | some u =>
        rw [hs] at ht
        simp only at ht
        split at ht <;> cases ht

theorem resolveOne_steady (hc : c.Plain waits) (n n' : Nat) (rep : Value) :
    resolveOne s c r n rep = resolveOne s c r n' rep := by
  unfold resolveOne
  cases hf : referenceFor s c rep with
  | error e => rfl
  | ok p =>
    obtain ⟨type, f?⟩ := p
    cases f? with
    | none => rfl
    | some f =>
      obtain ⟨t, ht, href⟩ := referenceFor_mem hf
      simp only [answered, (hc t ht f href).steady n n']

theorem resolveAll_eq_map (hc : c.Plain waits) (n : Nat) (reps : List Value) :
    resolveAll s c r n reps = reps.map (resolveOne s c r 0) := by
  induction reps generalizing n with
  | nil => rfl
  | cons rep reps ih => rw [resolveAll, ih, resolveOne_steady hc n 0, List.map_cons]

theorem resolve_steady (hc : c.Plain waits) (n n' : Nat) (reps : List Value) :
    resolve s c r n reps = resolve s c r n' reps := by
  unfold resolve
  rw [resolveAll_eq_map hc, resolveAll_eq_map hc]

theorem slot_value (hc : c.Plain waits) (n : Nat) (rep : Value) :
    (∃ v, (resolveOne s c r n rep).slot.value = .ok v)
      ∧ ((resolveOne s c r n rep).slot.isPending = true → waits = true) := by
  unfold resolveOne
  cases hf : referenceFor s c rep with
  | error e => exact ⟨⟨_, rfl⟩, fun h => by cases h⟩
  | ok p =>
    obtain ⟨type, f?⟩ := p
    cases f? with
    | none => exact ⟨⟨_, rfl⟩, fun h => by cases h⟩
    | some f =>
      obtain ⟨t, ht, href⟩ := referenceFor_mem hf
      simp only [answered]
      cases ha : f.answer n rep r with
      | now o => cases o <;> exact ⟨⟨_, rfl⟩, fun h => by cases h⟩
      | later k start finish o =>
        obtain ⟨hwaits, hkept⟩ := (hc t ht f href).later n rep r k start finish o ha
        refine ⟨?_, fun _ => hwaits⟩
        cases o with
        | value v => exact ⟨_, rfl⟩
        | failed e => exact ⟨_, rfl⟩
        | interrupted e => exact absurd rfl (hkept e)

/-- What a representation comes to in the end. -/
def entityOf (s : Schema) (c : Classification) (r : Request) (rep : Value) : Value :=
  match (resolveOne s c r 0 rep).slot.value with
  | .ok v => v
  | .error f => .failure f

theorem resolve_values (hc : c.Plain waits) (n : Nat) (reps : List Value) :
    (resolve s c r n reps).values = .ok (reps.map (entityOf s c r)) := by
  have hvalue : ∀ rep, (resolveOne s c r 0 rep).slot.value = .ok (entityOf s c r rep) := by
    intro rep
    obtain ⟨⟨v, hv⟩, -⟩ := slot_value (s := s) (r := r) hc 0 rep
    rw [entityOf, hv]
  rw [Resolution.values, gatherValues_eq, resolve, resolveAll_eq_map hc, List.map_map]
  induction reps with
  | nil => rfl
  | cons rep reps ih =>
    simp only [List.map_cons, List.mapM_cons, Function.comp_apply, hvalue]
    rw [ih]
    rfl

theorem resolve_waits (hc : c.Plain waits) (n : Nat) (reps : List Value)
    (h : (resolve s c r n reps).isPending = true) : waits = true := by
  rw [Resolution.isPending, resolve, resolveAll_eq_map hc, List.map_map, List.any_map,
    List.any_eq_true] at h
  obtain ⟨rep, -, hpending⟩ := h
  exact (slot_value hc 0 rep).2 hpending

end Resolving
end Federation

section Variables
variable {s : Schema} {v : String}

/-- A type for lists of representations that are there. -/
def TakesRepresentations (t : TypeRef) : Prop :=
  t.nullable = .list (.nonNull (.named Federation.anyScalar))

theorem Input.coerce_representation (hs : s.shape? Federation.anyScalar = some (.scalar none))
    {rep : Value} (hrep : rep.isNull = false) (path : Path) :
    Input.coerce s rep (.nonNull (.named Federation.anyScalar)) path = (rep, []) := by
  rw [Federation.anyScalar] at hs ⊢
  cases rep with
  | null => cases hrep
  | missing => cases hrep
  | _ => simp [Input.coerce, Input.throughType, Value.isNull, hs, Input.leaf, Leaf.parseScalar]

theorem Input.coerceItems_eq_map (s : Schema) (xs : List Value) :
    Input.coerceItems s xs = xs.map (Input.coerce s) := by
  induction xs with
  | nil => rfl
  | cons x xs ih => rw [Input.coerceItems, ih, List.map_cons]

theorem Input.coerce_representations (hs : s.shape? Federation.anyScalar = some (.scalar none))
    {reps : List Value} (hreps : ∀ rep ∈ reps, rep.isNull = false) {t : TypeRef}
    (ht : TakesRepresentations t) (path : Path) :
    Input.coerce s (.list reps) t path = (.list reps, []) := by
  have hlist : Input.coerce s (.list reps) (.list (.nonNull (.named Federation.anyScalar))) path
      = (.list reps, []) := by
    have hitems : ∀ k, ((reps.map (Input.coerce s)).zipIdx k).map (fun p =>
        p.1 (.nonNull (.named Federation.anyScalar)) (path ++ [PathStep.index p.2]))
        = reps.map fun rep => (rep, []) := by
      intro k
      induction reps generalizing k with
      | nil => rfl
      | cons rep reps ih =>
        rw [List.map_cons, List.zipIdx_cons, List.map_cons, List.map_cons,
          ih fun rep' h => hreps rep' (List.mem_cons_of_mem rep h)]
        simp only [Input.coerce_representation hs (hreps rep List.mem_cons_self)]
    simp only [Input.coerce, Input.throughType, Value.isNull, Input.coerceItems_eq_map,
      Input.listInput, hitems, List.map_map, List.flatMap_map]
    simp [Function.comp_def]
  cases t with
  | named n => cases ht
  | list u =>
    rw [show TypeRef.list u = .list (.nonNull (.named Federation.anyScalar)) from ht]
    exact hlist
  | nonNull u =>
    rw [show u = .list (.nonNull (.named Federation.anyScalar)) from ht]
    exact hlist

theorem variableValue_same {inputs inputs' : Entries Value} {d : VariableDefinition Nat}
    (h : inputs'.get? d.name = inputs.get? d.name) :
    variableValue s inputs' d = variableValue s inputs d := by
  simp only [variableValue, h]

theorem variableValue_representations (hs : s.shape? Federation.anyScalar = some (.scalar none))
    {reps : List Value} (hreps : ∀ rep ∈ reps, rep.isNull = false) {inputs : Entries Value}
    {d : VariableDefinition Nat} (hd : TakesRepresentations d.type)
    (hgiven : inputs.get? d.name = some (.list reps)) :
    variableValue s inputs d = (some (.list reps), []) := by
  simp only [variableValue, hgiven, Value.isNull, Bool.false_and,
    Input.coerce_representations hs hreps hd]
  rfl

/-- What is given for a variable. -/
structure TakesList (s : Schema) (v : String) (ds : List (VariableDefinition Nat)) : Prop where
  scalar : s.shape? Federation.anyScalar = some (.scalar none)
  defined : v ∈ ds.map (·.name)
  typed : ∀ d ∈ ds, d.name = v → TakesRepresentations d.type

/-- A list of representations that are there and that do not nest too deeply. -/
structure Given (reps : List Value) : Prop where
  present : ∀ rep ∈ reps, rep.isNull = false
  depth : (Value.list reps).depth ≤ deepestInput

theorem Given.single {reps : List Value} (h : Given reps) {rep : Value} (hrep : rep ∈ reps) :
    Given [rep] where
  present := fun r hr => by rw [List.mem_singleton.mp hr]; exact h.present rep hrep
  depth := by
    have hle : ∀ xs : List Value, rep ∈ xs → rep.depth ≤ Value.greatestDepth xs := by
      intro xs hxs
      induction xs with
      | nil => cases hxs
      | cons x xs ih =>
        rw [Value.greatestDepth]
        rcases List.mem_cons.mp hxs with rfl | hxs
        · exact Nat.le_max_left _ _
        · exact Nat.le_trans (ih hxs) (Nat.le_max_right _ _)
    have hdepth := h.depth
    have hrep := hle reps hrep
    simp only [Value.depth, Value.greatestDepth] at hdepth ⊢
    omega

theorem Given.nil : Given [] where
  present := fun _ h => by cases h
  depth := by decide

section Taken
variable {ds : List (VariableDefinition Nat)} {reps : List Value} {inputs inputs' : Entries Value}

/-- The values of variables, each of which has at most one. -/
def valuesOf (s : Schema) (inputs : Entries Value) (ds : List (VariableDefinition Nat)) : Variables :=
  ds.filterMap fun d => (variableValue s inputs d).1.map (d.name, ·)

theorem get?_valuesOf_cons (inputs : Entries Value) (d : VariableDefinition Nat)
    (ds : List (VariableDefinition Nat)) (n : String) :
    (valuesOf s inputs (d :: ds)).get? n = if n = d.name then
        (variableValue s inputs d).1.or ((valuesOf s inputs ds).get? n)
      else (valuesOf s inputs ds).get? n := by
  unfold valuesOf
  rw [List.filterMap_cons]
  cases (variableValue s inputs d).1 with
  | none => simp
  | some w =>
    simp only [Option.map_some, Entries.get?_cons]
    split <;> rfl

theorem get?_valuesOf_same {n : String} (h : inputs'.get? n = inputs.get? n) :
    (valuesOf s inputs' ds).get? n = (valuesOf s inputs ds).get? n := by
  induction ds with
  | nil => rfl
  | cons d ds ih =>
    rw [get?_valuesOf_cons, get?_valuesOf_cons, ih]
    split
    · next hname => rw [variableValue_same (hname ▸ h)]
    · rfl

theorem variableValues_ok_iff {inputs : Entries Value} {vs : Variables} :
    variableValues s inputs ds = .ok (.ok vs)
      ↔ ((variableIssues inputs (ds.map fun d => (d, variableValue s inputs d))).take
          (mostVariableIssues + 1)).mapM id = .ok [] ∧ vs = valuesOf s inputs ds := by
  have hrun : variableValues s inputs ds
      = (((variableIssues inputs (ds.map fun d => (d, variableValue s inputs d))).take
          (mostVariableIssues + 1)).mapM id).bind fun issues =>
        .ok (if issues.isEmpty then .ok (valuesOf s inputs ds)
          else if mostVariableIssues < issues.length then
            .error (issues.take mostVariableIssues ++ [tooManyVariableIssues])
          else .error issues) := by
    unfold variableValues valuesOf
    simp only [List.filterMap_map]
    rfl
  rw [hrun]
  cases ((variableIssues inputs (ds.map fun d => (d, variableValue s inputs d))).take
      (mostVariableIssues + 1)).mapM id with
  | error f => simp [Except.bind]
  | ok issues =>
    cases issues with
    | nil => simp [Except.bind, eq_comm]
    | cons i issues =>
      simp only [Except.bind, List.isEmpty_cons]
      constructor
      · intro h
        split at h
        · next h' => cases h'
        · split at h <;> cases h
      · rintro ⟨h, -⟩
        cases h

/-- A variable has the same value in two requests that give the same for it. -/
theorem variableValues_agree {vs vs' : Variables} (hvs : variableValues s inputs ds = .ok (.ok vs))
    (hvs' : variableValues s inputs' ds = .ok (.ok vs')) {n : String}
    (h : inputs'.get? n = inputs.get? n) : vs'.get? n = vs.get? n := by
  obtain ⟨-, rfl⟩ := variableValues_ok_iff.mp hvs
  obtain ⟨-, rfl⟩ := variableValues_ok_iff.mp hvs'
  exact get?_valuesOf_same h

theorem variableIssues_taken (ht : TakesList s v ds) (h : Given reps)
    (hinput : inputs.get? v = some (.list reps)) :
    variableIssues inputs (ds.map fun d => (d, variableValue s inputs d))
      = variableIssues (inputs.put v (.list []))
        (ds.map fun d => (d, variableValue s (inputs.put v (.list [])) d)) := by
  have hfaults : ∀ d ∈ ds, (variableValue s inputs d).2
      = (variableValue s (inputs.put v (.list [])) d).2 := by
    intro d hd
    by_cases hname : d.name = v
    · rw [variableValue_representations ht.scalar h.present (ht.typed d hd hname) (hname ▸ hinput),
        variableValue_representations ht.scalar Given.nil.present (ht.typed d hd hname)
          (by rw [Entries.get?_put, if_pos hname])]
    · rw [variableValue_same]
      rw [Entries.get?_put, if_neg hname]
  have hnested : ∀ d ∈ ds, isNestedInput inputs d = isNestedInput (inputs.put v (.list [])) d := by
    intro d _
    rw [isNestedInput, isNestedInput, Entries.get?_put]
    split
    · next hname =>
      rw [hname, hinput]
      exact decide_eq_decide.mpr
        ⟨fun hlt => absurd h.depth (Nat.not_le.mpr hlt),
          fun hlt => absurd Given.nil.depth (Nat.not_le.mpr hlt)⟩
    · rfl
  -- The list of issues is built variable by variable.
  have hall : ∀ es : List (VariableDefinition Nat), (∀ d ∈ es, d ∈ ds) →
      variableIssues inputs (es.map fun d => (d, variableValue s inputs d))
        = variableIssues (inputs.put v (.list []))
          (es.map fun d => (d, variableValue s (inputs.put v (.list [])) d)) := by
    intro es hes
    induction es with
    | nil => rfl
    | cons d es ih =>
      have hd := hes d List.mem_cons_self
      have hrest := ih fun e he => hes e (List.mem_cons_of_mem d he)
      simp only [List.map_cons, variableIssues, hnested d hd, hfaults d hd, hrest]
  exact hall ds fun _ h => h

theorem get?_valuesOf_taken (ht : ∀ d ∈ ds, d.name = v → TakesRepresentations d.type)
    (hs : s.shape? Federation.anyScalar = some (.scalar none)) (hdefined : v ∈ ds.map (·.name))
    (h : Given reps) (hinput : inputs.get? v = some (.list reps)) :
    (valuesOf s inputs ds).get? v = some (.list reps) := by
  induction ds with
  | nil => cases hdefined
  | cons d ds ih =>
    rw [get?_valuesOf_cons]
    by_cases hname : v = d.name
    · rw [if_pos hname, variableValue_representations hs h.present
        (ht d List.mem_cons_self hname.symm) (hname ▸ hinput)]
      rfl
    · rw [if_neg hname]
      refine ih (fun e he => ht e (List.mem_cons_of_mem d he)) ?_
      rcases List.mem_cons.mp hdefined with hv | hv
      · exact absurd hv hname
      · exact hv

/-- If the empty list is accepted for the variable, every list of representations is. -/
theorem variableValues_taken (ht : TakesList s v ds) (h : Given reps)
    (hinput : inputs.get? v = some (.list reps)) {vs : Variables}
    (hvs : variableValues s (inputs.put v (.list [])) ds = .ok (.ok vs)) :
    ∃ vs, variableValues s inputs ds = .ok (.ok vs) ∧ vs.get? v = some (.list reps) := by
  obtain ⟨hissues, -⟩ := variableValues_ok_iff.mp hvs
  rw [← variableIssues_taken ht h hinput] at hissues
  exact ⟨_, variableValues_ok_iff.mpr ⟨hissues, rfl⟩,
    get?_valuesOf_taken ht.typed ht.scalar ht.defined h hinput⟩

end Taken
end Variables
end Subgraph
