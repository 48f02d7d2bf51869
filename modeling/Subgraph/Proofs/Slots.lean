import Subgraph.Federation.Transform
import Subgraph.Proofs.Answering
import Subgraph.Proofs.Classifying
import Subgraph.Proofs.Representations
import Subgraph.Proofs.Rooting
import Subgraph.Proofs.Selecting
import Subgraph.Proofs.Simulation
import Subgraph.Query.Answer

/-!
# The slots of a list of entities

Every representation has a slot of its own in the answer. What becomes of it there, with the errors
below it, is what becomes of it when it is the only one. The execution below a slot is simulated by
the one below the first slot of the shorter list: they differ in the value of the variable for the
representations, which nothing below reads, and in the place of the slot, which only templates show.
-/

namespace Subgraph
open Exec

theorem Trail.path_append (trail : Trail) (here : PathStep × Option String) :
    Trail.path (trail ++ [here]) = trail.path ++ [here.1] :=
  List.map_append

/-- Paths that go on alike from two places. -/
def Beyond (base base' : Path) (p p' : Path) : Prop := ∃ r, p = base ++ r ∧ p' = base' ++ r

/-- All reference functions of a service are plain. -/
def Service.Plain (waits : Bool) (x : Service) : Prop :=
  ∀ r ∈ x.resolvers, ∀ c, r.2 = .entities c → c.Plain waits

/-- Wherever there is a field of this name, it is not left to a text to fill in a template. -/
def Service.Untemplated (x : Service) (name : String) : Prop :=
  name = "format" → ∀ t ∈ x.schema.types, (t.field? name).isSome = true →
    (x.resolver? t.name name).isSome = true

/-- Selections that use some variables only and ask for no template. -/
def Service.Apart (x : Service) (used : String → Prop) (ss : List (Selection Nat)) : Prop :=
  EverySelection (fun n => (∀ a ∈ n.arguments, a.value.VariablesIn used) ∧ x.Untemplated n.name)
    (Directive.VariablesIn used) (fun _ => True) ss

/-- The same for a field with what is selected below it. -/
def Service.ApartNode (x : Service) (used : String → Prop) (n : FieldNode) : Prop :=
  n.Every (fun n => (∀ a ∈ n.arguments, a.value.VariablesIn used) ∧ x.Untemplated n.name)
    (Directive.VariablesIn used) fun _ => True

/-- Two scopes with the same fragments that give some variables the same values. -/
structure Scope.Beside (used : String → Prop) (sc sc' : Scope) : Prop where
  schema : sc'.query.schema = sc.query.schema
  fragments : sc'.query.fragments = sc.query.fragments
  depth : sc'.query.topDepth = sc.query.topDepth
  bindings : ∀ n, used n → sc'.bindings.get? n = sc.bindings.get? n

theorem Scope.Beside.refl (used : String → Prop) (sc : Scope) : sc.Beside used sc :=
  ⟨rfl, rfl, rfl, fun _ _ => rfl⟩

/-- The query root resolves representations by a classification. -/
structure Service.Resolves (x : Service) (c : Federation.Classification) (t : NamedType) : Prop where
  root : x.schema.query = some t.name
  type : x.schema.type? t.name = some t
  field : t.field? Federation.entitiesField = some Federation.entitiesFieldType
  resolver : x.resolver? t.name Federation.entitiesField = some (.entities c)

theorem Service.Plain.classification {waits : Bool} {x : Service} (h : x.Plain waits)
    {type field : String} {c : Federation.Classification}
    (hc : x.resolver? type field = some (.entities c)) : c.Plain waits :=
  h _ (mem_of_lookup hc) c rfl

namespace Env

section Entities
variable (env : Env) (c : Federation.Classification) (parent place : String)
  (arguments : Entries Value) (complete : Source → Exec Value)

/-- The representations that a field is given. -/
def representations (arguments : Entries Value) : List Value :=
  match Entries.get? arguments "representations" with
  | some (.list xs) => xs
  | _ => []

/-- Completes what representations were resolved to. -/
def deliver (x : Federation.Resolution) : Exec Value :=
  if x.isPending && !env.waits then
    Exec.ofExcept (.error ("Expected Iterable, but did not find one for field '" ++ place ++ "'."))
  else match x.values with
    | .error f => Exec.ofExcept (.error f.message)
    | .ok vs =>
      if x.isPending then Exec.afterwards x.slots (complete (.data (.list vs)))
      else complete (.data (.list vs))

def entitiesRequest : Federation.Request := ⟨env.context, Federation.entitiesField, parent⟩

theorem entities_eq : env.entities c parent place arguments complete =
    Exec.calls >>= fun n =>
      let x := Federation.resolve env.schema c (env.entitiesRequest parent) n
        (representations arguments)
      Exec.note ⟨[], [], x.records, Federation.countedCalls x.calls⟩ >>= fun _ =>
        env.deliver place complete x := rfl

end Entities

/-- The same for another operation with values of its own for the variables. -/
def rebind (env : Env) (sc : Scope) (o : Operation Nat) : Env :=
  { env with toScope := sc, operation := o }

section Rebind
variable {env : Env} {sc : Scope} {o : Operation Nat} {used : String → Prop}

theorem rebind_sameArguments (h : env.toScope.Beside used sc) :
    Scope.SameArguments (fun d => d) (fun _ => True) used env.toScope sc where
  reading := by
    refine ⟨.of_types (by rw [h.schema]), h.bindings, fun _ _ _ _ _ _ _ => ?_⟩
    rw [h.schema]
  default := fun _ _ => by rw [h.schema]

theorem rebind_argumentValues (h : env.toScope.Beside used sc)
    {as : List (Argument Nat)} (has : ∀ a ∈ as, a.value.VariablesIn used) (ds : List InputValue) :
    (env.rebind sc o).argumentValues as ds = env.argumentValues as ds := by
  have hsame := Scope.argumentValues_same (rebind_sameArguments h) has ds fun _ _ => trivial
  rw [List.map_id''] at hsame
  · exact hsame
  · exact fun _ => rfl

theorem rebind_isIncluded (h : env.toScope.Beside used sc)
    {ds : List (Directive Nat)} (hds : ∀ d ∈ ds, d.VariablesIn used) :
    (env.rebind sc o).isIncluded ds = env.isIncluded ds :=
  Scope.isIncluded_same (rebind_sameArguments h) (fun _ _ => rfl) trivial hds

theorem rebind_entities {P : Path → Path → Prop} {M : String → String → Prop}
    {c : Federation.Classification} (hc : c.Plain env.waits) (parent place : String) (arguments : Entries Value)
    {complete complete' : Source → Exec Value}
    (hcomplete : ∀ x, Similar P M (complete x) (complete' x)) :
    Similar P M (env.entities c parent place arguments complete)
      ((env.rebind sc o).entities c parent place arguments complete') := by
  rw [entities_eq, entities_eq]
  refine Similar.calls fun n n' => ?_
  have hresolve : Federation.resolve (env.rebind sc o).schema c ((env.rebind sc o).entitiesRequest parent)
      n' (representations arguments)
      = Federation.resolve env.schema c (env.entitiesRequest parent) n (representations arguments) :=
    Federation.resolve_steady hc n' n _
  simp only [hresolve]
  refine (Similar.note _ _ _ _).bind fun _ => ?_
  unfold deliver
  simp only [show (env.rebind sc o).waits = env.waits from rfl]
  split
  · exact .ofExcept _
  · split
    · exact .ofExcept _
    · split
      · exact (hcomplete _).afterwards _
      · exact hcomplete _

theorem rebind_answerField {P : Path → Path → Prop} {M : String → String → Prop}
    (hplain : env.service.Plain env.waits)
    {t : NamedType} (ht : t ∈ env.schema.types) {f : Field} (hf : t.field? f.name = some f)
    (hname : env.service.Untemplated f.name) (source : Source) (arguments : Entries Value)
    {describe describe' : Unit → Described}
    (hdescribe : ∀ c, Value.Member.replacement (describe ()) c
      = Value.Member.replacement (describe' ()) c)
    {complete complete' : Source → Exec Value}
    (hcomplete : ∀ x, Similar P M (complete x) (complete' x)) :
    Similar P M (env.answerField t source f arguments describe complete)
      ((env.rebind sc o).answerField t source f arguments describe' complete') := by
  unfold answerField
  simp only [show (env.rebind sc o).service = env.service from rfl,
    show (env.rebind sc o).context = env.context from rfl,
    show (env.rebind sc o).root = env.root from rfl]
  cases hr : env.service.resolver? t.name f.name with
  | some r =>
    cases r with
    | custom answer =>
      simp only
      cases answer ⟨source.value, arguments, env.context, env.root⟩ with
      | ok w => exact hcomplete _
      | error e => exact .ofExcept _
    | sdl text => exact hcomplete _
    | entities c => exact rebind_entities (hplain.classification hr) _ _ _ hcomplete
  | none =>
    have hformat : f.name ≠ "format" := by
      intro heq
      have hsome := hname heq t ht (by rw [hf]; rfl)
      rw [hr] at hsome
      cases hsome
    simp only [source.value.answer_same hformat hdescribe arguments]
    cases source.value.answer f.name describe' arguments with
    | ok w => exact hcomplete _
    | error e => exact .ofExcept _

theorem objectType_ok {place abstract : String} {w : Value} {u : NamedType}
    (h : env.objectType place abstract w = .ok u) : ∃ n, env.runtimeType abstract w = some n
      ∧ env.schema.type? n = some u ∧ u.shape.isObject = true
      ∧ env.schema.isSubType abstract u.name = true := by
  unfold objectType at h
  cases hr : env.runtimeType abstract w with
  | none => rw [hr] at h; cases h
  | some n =>
    simp only [hr] at h
    cases ht : env.schema.type? n with
    | none => rw [ht] at h; cases h
    | some t =>
      simp only [ht] at h
      split at h
      · cases h
      · next hobject =>
        split at h
        · next hsub =>
          cases h
          exact ⟨n, rfl, ht, by simpa using hobject, (Schema.mem_of_type? ht).2 ▸ hsub⟩
        · cases h

theorem rebind_agree (h : env.toScope.Beside used sc)
    (hfragments : ∀ f ∈ env.query.fragments, env.service.Apart used f.selections) (t : NamedType) :
    Scope.Agree (fun n => (∀ a ∈ n.arguments, a.value.VariablesIn used)
        ∧ env.service.Untemplated n.name) (Directive.VariablesIn used) (fun _ => True) env.toScope
      (env.rebind sc o).toScope t t where
  fragments := h.fragments
  depth := h.depth
  accepted := fun f hf => ⟨trivial, hfragments f hf⟩
  included := fun _ hds => rebind_isIncluded h hds
  applies := fun _ _ => by
    show (_ || sc.query.schema.isSubType _ _) = _
    rw [h.schema]
    rfl

/-- The places below two slots correspond, and what is met there uses some variables only. -/
def besideSlots (env : Env) (used : String → Prop) (base base' : Path) : Correspondence where
  path := Beyond base base'
  message := Verbatim
  trail := fun trail trail' => Beyond base base' trail.path trail'.path
  type := fun t t' => t' = t ∧ t ∈ env.schema.types
  body := fun _ nodes => ∀ n ∈ nodes, env.service.Apart used n.selections
  nodes := fun _ nodes => ∀ n ∈ nodes, env.service.ApartNode used n
  source := fun _ => True
  named := fun _ => True

theorem rebind_resolveField {P : Path → Path → Prop} {M : String → String → Prop}
    (h : env.toScope.Beside used sc) (hplain : env.service.Plain env.waits) {t : NamedType}
    (ht : t ∈ env.schema.types) {n : String} (hn : env.service.Untemplated n) {f : Field}
    (hf : env.schema.fieldOf? t n = some f) (source : Source) (arguments : Entries Value)
    (nodes : List FieldNode) (trail trail' : Trail) (here : PathStep × Option String)
    {complete complete' : Source → Exec Value}
    (hcomplete : ∀ x, Similar P M (complete x) (complete' x)) :
    Similar P M
      (env.resolveField t source f arguments (fun _ => Description.ofField env.toScope
        env.operation env.root env.context t f nodes (trail ++ [here])) complete)
      ((env.rebind sc o).resolveField t source f arguments (fun _ => Description.ofField sc o
        env.root env.context t f nodes (trail' ++ [here])) complete') := by
  obtain ⟨step, owner⟩ := here
  have hname : f.name = n := fieldOf?_name hf
  subst hname
  rw [resolveField_eq, resolveField_eq]
  by_cases htypename : f.name = "__typename"
  · rw [if_pos htypename, if_pos htypename]
    exact hcomplete _
  rw [if_neg htypename, if_neg htypename]
  by_cases hschema : f.name = "__schema"
  · rw [if_pos hschema, if_pos hschema]
    exact hcomplete _
  rw [if_neg hschema, if_neg hschema]
  by_cases htype : f.name = "__type"
  · rw [if_pos htype, if_pos htype]
    exact hcomplete _
  rw [if_neg htype, if_neg htype, show (env.rebind sc o).schema = env.schema from rfl]
  cases Introspection.introspect env.schema source f.name arguments with
  | some x => exact hcomplete x
  | none =>
    have hfield := field?_of_fieldOf? hf htypename hschema htype
    refine rebind_answerField hplain ht hfield hn source arguments (fun c => ?_) hcomplete
    refine Description.replacement_ofField rfl ?_ c
    rw [h.schema]

theorem rebind_completeNamed {P : Path → Path → Prop} {M : String → String → Prop}
    {place n : String} {source : Source} {sub sub' : NamedType → Source → Exec Value}
    (hsub : ∀ u ∈ env.schema.types, Completes env.schema n u →
      Similar P M (sub u source) (sub' u source)) :
    Similar P M (env.completeNamed place sub n source)
      ((env.rebind sc o).completeNamed place sub' n source) := by
  unfold completeNamed
  simp only [show (env.rebind sc o).schema = env.schema from rfl,
    show ∀ v, (env.rebind sc o).objectType place n v = env.objectType place n v from fun _ => rfl]
  cases ht : env.schema.type? n with
  | none => exact .pure Value.null
  | some t =>
    obtain ⟨hmem, hname⟩ := Schema.mem_of_type? ht
    simp only
    split
    · exact .ofExcept _
    · exact .ofExcept _
    · exact hsub t hmem (.inl hname)
    · cases hu : env.objectType place n source.value with
      | ok u =>
        obtain ⟨_, -, htype, -, hbelow⟩ := objectType_ok hu
        exact hsub u (Schema.mem_of_type? htype).1 (.inr hbelow)
      | error m => exact .ofExcept _

/-- Two environments that give the variables in use the same values run alike, from wherever. -/
theorem rebind_simulates (h : env.toScope.Beside used sc)
    (hplain : env.service.Plain env.waits)
    (hfragments : ∀ f ∈ env.query.fragments, env.service.Apart used f.selections)
    (base base' : Path) :
    Simulates (besideSlots env used base base') env (env.rebind sc o) where
  append := by
    rintro trail trail' ⟨step, owner⟩ ⟨r, hr, hr'⟩
    refine ⟨r ++ [step], ?_, ?_⟩
    · rw [Trail.path_append, hr, List.append_assoc]
    · rw [Trail.path_append, hr', List.append_assoc]
  paths := fun _ _ h => h
  items := fun _ _ _ _ _ _ => trivial
  name := by
    rintro t t' ⟨rfl, -⟩
    rfl
  returns := fun _ _ _ _ _ _ _ _ => trivial
  inside := fun _ _ _ _ _ _ _ _ _ hnodes _ _ n hn => (hnodes n hn).2
  below := by
    rintro t t' nodes ⟨rfl, -⟩ hnodes
    exact (rebind_agree h hfragments t').fieldsBelow hnodes
  check := by
    rintro t t' source ⟨rfl, -⟩
    rfl
  field := by
    rintro t t' n more ⟨rfl, -⟩ hnodes
    have hn := hnodes n List.mem_cons_self
    show Option.Rel _ (env.schema.fieldOf? t' n.name) (env.schema.fieldOf? t' n.name)
    cases env.schema.fieldOf? t' n.name with
    | none => exact .none
    | some f => exact .some ⟨rfl, rebind_argumentValues h hn.1.1 f.arguments⟩
  resolve := by
    rintro t t' n more f f' source trail trail' here arguments complete complete' - ⟨rfl, ht⟩ hnodes
      - hf hf' hcomplete
    obtain rfl : f = f' := Option.some.inj (hf.symm.trans hf')
    exact rebind_resolveField h hplain ht (hnodes n List.mem_cons_self).1.2 hf source arguments _
      trail trail' here fun x => hcomplete x trivial
  completed := fun place n source sub sub' _ _ hsub =>
    rebind_completeNamed fun u hu hn => hsub u u source ⟨rfl, hu⟩ hn trivial

end Rebind

/-- The place of an entity in the answer. -/
def slotTrail (t : NamedType) (key : String) (i : Nat) : Trail :=
  [(.key key, some t.name), (.index i, none)]

def slotPath (key : String) (i : Nat) : Path := [.key key, .index i]

/-- Completes an entity in its slot, where an error takes the place of it. -/
def slot (env : Env) (t : NamedType) (node : FieldNode) (i : Nat) (x : Source) : Exec Value :=
  Exec.settle (.named Federation.entityUnion) <| Exec.located [node.mark] (slotPath node.key i) <|
    env.complete (t.name ++ "." ++ node.name) [node.mark] (env.executeBelow env.query.topDepth [node])
      (.named Federation.entityUnion) x (slotTrail t node.key i)

theorem slot_selections (env : Env) (t : NamedType) (node node' : FieldNode)
    (hmark : node'.mark = node.mark) (hkey : node'.key = node.key) (hname : node'.name = node.name)
    (hselections : node'.selections = node.selections) (i : Nat) (x : Source) :
    env.slot t node' i x = env.slot t node i x := by
  have hbelow : ∀ fuel, env.executeBelow fuel [node'] = env.executeBelow fuel [node] := by
    intro fuel
    cases fuel with
    | zero => rfl
    | succ fuel =>
      funext type source trail
      simp only [executeBelow, Scope.fieldsBelow, List.foldlM_cons, List.foldlM_nil, hselections]
  simp only [slot, hbelow, hmark, hkey, hname]

/-- What becomes of an entity, with the errors that show at once and those that come later. -/
structure SlotRun where
  value : Value
  errors : List QueryError
  later : List QueryError

def SlotRun.Of (env : Env) (t : NamedType) (node : FieldNode) (x : Source × Nat) (run : SlotRun) :
    Prop :=
  Yields (env.slot t node x.2 x.1) run.value run.errors run.later

section Slot
variable {env : Env} {sc : Scope} {o : Operation Nat} {used : String → Prop} {t : NamedType}
  {node : FieldNode}

/-- A slot runs like any other slot, in an environment for another list. -/
theorem slot_similar (h : env.toScope.Beside used sc)
    (hplain : env.service.Plain env.waits)
    (hfragments : ∀ f ∈ env.query.fragments, env.service.Apart used f.selections)
    (hbody : env.service.Apart used node.selections) (i j : Nat) (x : Source) :
    Similar (Beyond (slotPath node.key i) (slotPath node.key j)) Verbatim (env.slot t node i x)
      ((env.rebind sc o).slot t node j x) := by
  have hsimulates := rebind_simulates (o := o) h hplain hfragments (slotPath node.key i)
    (slotPath node.key j)
  have hpath : Beyond (slotPath node.key i) (slotPath node.key j) (slotTrail t node.key i).path
      (slotTrail t node.key j).path := ⟨[], rfl, rfl⟩
  refine Similar.settle ?_ hpath [node.mark] (.named Federation.entityUnion)
  refine hsimulates.complete _ _ _ trivial (fun u u' y _ _ hu _ hy hp => ?_) x trivial hpath
  rw [show (env.rebind sc o).query.topDepth = env.query.topDepth from h.depth]
  refine hsimulates.executeBelow _ (fun n hn => ?_) hu hy hp
  rw [List.mem_singleton.mp hn]
  exact hbody

theorem slot_yields (hplain : env.service.Plain env.waits)
    (hfragments : ∀ f ∈ env.query.fragments, env.service.Apart used f.selections)
    (hbody : env.service.Apart used node.selections) (x : Source × Nat) :
    ∃ run, SlotRun.Of env t node x run := by
  have hself := slot_similar (o := env.operation) (t := t) (.refl used env.toScope) hplain hfragments
    hbody x.2 x.2 x.1
  have hsame : ∀ p p', Beyond (slotPath node.key x.2) (slotPath node.key x.2) p p' → p' = p := by
    rintro _ _ ⟨r, rfl, rfl⟩
    rfl
  have hok : ∀ n, ∃ a, (env.slot t node x.2 x.1 n).1 = .ok a := fun n => absorb_ok _ n
  obtain ⟨a, es, ls, hyields⟩ := Similar.yields hself hsame hok
  exact ⟨⟨a, es, ls⟩, hyields⟩

theorem completeItems_yields (hplain : env.service.Plain env.waits)
    (hfragments : ∀ f ∈ env.query.fragments, env.service.Apart used f.selections)
    (hbody : env.service.Apart used node.selections) (xs : List Source) (index : Nat) :
    ∃ runs : List SlotRun, List.Forall₂ (SlotRun.Of env t node) (xs.zipIdx index) runs
      ∧ Yields (Env.completeItems [node.mark] (.named Federation.entityUnion)
          (env.complete (t.name ++ "." ++ node.name) [node.mark]
            (env.executeBelow env.query.topDepth [node]) (.named Federation.entityUnion))
          [(.key node.key, some t.name)] index xs)
        (runs.map SlotRun.value) (runs.flatMap SlotRun.errors) (runs.flatMap SlotRun.later) := by
  induction xs generalizing index with
  | nil => exact ⟨[], .nil, .pure []⟩
  | cons x xs ih =>
    obtain ⟨runs, hruns, hrest⟩ := ih (index + 1)
    obtain ⟨run, hrun⟩ := slot_yields (t := t) hplain hfragments hbody (x, index)
    refine ⟨run :: runs, .cons hrun hruns, ?_⟩
    exact Yields.bind (f := fun w => (w :: ·) <$> Env.completeItems [node.mark] _ _ _ (index + 1) xs)
      hrun (hrest.map (run.value :: ·))

end Slot

/-- A query for the entities of a list and for nothing else. -/
structure AsksFor (o : Operation Nat) (node : FieldNode) : Prop where
  kind : o.kind = .query
  selections : o.selections = [.field node.mark node.label? node.name node.arguments node.directives
    node.bodyMark node.selections]
  name : node.name = Federation.entitiesField
  unconditional : ∀ d ∈ node.directives, d.name ≠ "skip" ∧ d.name ≠ "include"

section Root
variable {env : Env} {used : String → Prop} {t : NamedType} {node : FieldNode} {o : Operation Nat}
  {c : Federation.Classification}

theorem isIncluded_unconditional (sc : Scope) {ds : List (Directive Nat)}
    (h : ∀ d ∈ ds, d.name ≠ "skip" ∧ d.name ≠ "include") : sc.isIncluded ds = .ok true := by
  have hskip : ds.find? (·.name == "skip") = none :=
    List.find?_eq_none.mpr fun d hd heq => (h d hd).1 (eq_of_beq heq)
  have hinclude : ds.find? (·.name == "include") = none :=
    List.find?_eq_none.mpr fun d hd heq => (h d hd).2 (eq_of_beq heq)
  unfold Scope.isIncluded Scope.condition?
  rw [hskip, hinclude]
  rfl

theorem AsksFor.fieldsOf (h : AsksFor o node) :
    env.fieldsOf t o.selections = .ok [(node.key, [node])] := by
  rw [Scope.fieldsOf, QueryContext.topDepth, Scope.collect_succ, h.selections, List.foldlM_cons,
    Scope.collectOne, isIncluded_unconditional env.toScope h.unconditional]
  rfl

/-- The entities that representations are resolved to. -/
def entities' (env : Env) (c : Federation.Classification) (t : NamedType) (reps : List Value) :
    List Source :=
  reps.map fun rep => .data (Federation.entityOf env.schema c (env.entitiesRequest t.name) rep)

theorem complete_yields (hplain : env.service.Plain env.waits)
    (hfragments : ∀ f ∈ env.query.fragments, env.service.Apart used f.selections)
    (hbody : env.service.Apart used node.selections) (vs : List Value) :
    ∃ runs : List SlotRun, List.Forall₂ (SlotRun.Of env t node) ((vs.map .data).zipIdx 0) runs
      ∧ Yields (env.complete (t.name ++ "." ++ node.name) [node.mark]
          (env.executeBelow env.query.topDepth [node]) (.nonNull (.list (.named Federation.entityUnion)))
          (.data (.list vs)) [(.key node.key, some t.name)])
        (.list (runs.map SlotRun.value)) (runs.flatMap SlotRun.errors) (runs.flatMap SlotRun.later) := by
  obtain ⟨runs, hruns, hitems⟩ := completeItems_yields (t := t) hplain hfragments hbody (vs.map .data) 0
  refine ⟨runs, hruns, ?_⟩
  have hlist := hitems.together.map Value.list
  rw [← List.append_nil (runs.flatMap SlotRun.errors), ← List.append_nil (runs.flatMap SlotRun.later)]
  exact Yields.bind hlist (.pure (Value.list (runs.map SlotRun.value)))

theorem deliver_yields (hplain : env.service.Plain env.waits) (hc : c.Plain env.waits)
    (hfragments : ∀ f ∈ env.query.fragments, env.service.Apart used f.selections)
    (hbody : env.service.Apart used node.selections) (reps : List Value) :
    ∃ runs : List SlotRun, List.Forall₂ (SlotRun.Of env t node)
        ((env.entities' c t reps).zipIdx 0) runs
      ∧ ∃ es ls, es ++ ls = runs.flatMap SlotRun.errors ++ runs.flatMap SlotRun.later
        ∧ Yields (env.entities c t.name (t.name ++ "." ++ node.name)
            [("representations", .list reps)] fun x =>
              env.complete (t.name ++ "." ++ node.name) [node.mark]
                (env.executeBelow env.query.topDepth [node])
                (.nonNull (.list (.named Federation.entityUnion))) x [(.key node.key, some t.name)])
          (.list (runs.map SlotRun.value)) es ls := by
  obtain ⟨runs, hruns, hcomplete⟩ := complete_yields (t := t) hplain hfragments hbody
    (reps.map (Federation.entityOf env.schema c (env.entitiesRequest t.name)))
  rw [List.map_map] at hruns
  refine ⟨runs, hruns, ?_⟩
  have hvalues := Federation.resolve_values (s := env.schema) (r := env.entitiesRequest t.name) hc 0 reps
  have hwaits := Federation.resolve_waits (s := env.schema) (r := env.entitiesRequest t.name) hc 0 reps
  have hdeliver : ∀ {es ls : List QueryError} {complete : Source → Exec Value},
      Yields (env.deliver (t.name ++ "." ++ node.name) complete
        (Federation.resolve env.schema c (env.entitiesRequest t.name) 0 reps))
        (.list (runs.map SlotRun.value)) es ls →
      Yields (env.entities c t.name (t.name ++ "." ++ node.name) [("representations", .list reps)]
        complete) (.list (runs.map SlotRun.value)) es ls := by
    intro es ls complete h
    rw [entities_eq]
    refine .calls fun n => ?_
    simp only [show representations [("representations", .list reps)] = reps from rfl,
      Federation.resolve_steady hc n 0]
    exact Yields.bind (f := fun _ => env.deliver _ complete _) (.note _ _) h
  cases hpending : (Federation.resolve env.schema c (env.entitiesRequest t.name) 0 reps).isPending with
  | true =>
    refine ⟨[], _, List.nil_append _, hdeliver ?_⟩
    unfold deliver
    simp only [hpending, hwaits hpending, hvalues]
    exact hcomplete.afterwards _
  | false =>
    refine ⟨_, _, rfl, hdeliver ?_⟩
    unfold deliver
    simp only [hpending, hvalues]
    exact hcomplete

/-- The response to a query for entities is put together from what becomes of each of them. -/
theorem executeOperation_yields (hroot : env.service.Resolves c t) (hasks : AsksFor o node)
    (hplain : env.service.Plain env.waits)
    (hfragments : ∀ f ∈ env.query.fragments, env.service.Apart used f.selections)
    (hbody : env.service.Apart used node.selections) {reps : List Value}
    (hlist : env.argumentValues node.arguments Federation.entitiesFieldType.arguments
      = .ok [("representations", .list reps)]) :
    ∃ runs : List SlotRun, List.Forall₂ (SlotRun.Of env t node)
        ((env.entities' c t reps).zipIdx 0) runs
      ∧ ∃ es ls, es ++ ls = runs.flatMap SlotRun.errors ++ runs.flatMap SlotRun.later
        ∧ Yields (env.executeOperation o)
          (.record [(node.key, .list (runs.map SlotRun.value))]) es ls := by
  have hc : c.Plain env.waits := hplain.classification hroot.resolver
  obtain ⟨runs, hruns, es, ls, herrors, hentities⟩ :=
    deliver_yields (t := t) hplain hc hfragments hbody reps
  refine ⟨runs, hruns, es, ls, herrors, ?_⟩
  have hfield : env.schema.fieldOf? t node.name = some Federation.entitiesFieldType := by
    rw [hasks.name]
    exact hroot.field
  have hresolve : Yields (env.executeField (env.executeBelow env.query.topDepth) t (.data env.root) []
      node.key [node]) (some (.list (runs.map SlotRun.value))) es ls := by
    rw [executeField_known hfield]
    refine .map some (.located _ _ ?_)
    refine (Yields.ofScope hlist).bind ?_
    have hanswer : ∀ describe complete, env.resolveField t (.data env.root)
        Federation.entitiesFieldType [("representations", .list reps)] describe complete
        = env.entities c t.name (t.name ++ "." ++ node.name) [("representations", .list reps)]
            complete := by
      intro describe complete
      rw [resolveField_eq, if_neg (by decide), if_neg (by decide), if_neg (by decide)]
      show env.answerField t _ _ _ _ _ = _
      unfold answerField
      rw [show Federation.entitiesFieldType.name = Federation.entitiesField from rfl,
        hroot.resolver, hasks.name]
    rw [hanswer]
    exact hentities
  -- No other field is asked for.
  have hrest : Yields (env.executeGroups (env.executeBelow env.query.topDepth) t (.data env.root) [] []
      >>= fun rest => Pure.pure ((node.key, Value.list (runs.map SlotRun.value)) :: rest))
      [(node.key, .list (runs.map SlotRun.value))] [] [] :=
    Yields.bind (f := fun rest => Pure.pure ((node.key, Value.list (runs.map SlotRun.value)) :: rest))
      (.pure []) (.pure [(node.key, Value.list (runs.map SlotRun.value))])
  have hgroups : Yields (env.executeGroups (env.executeBelow env.query.topDepth) t (.data env.root) []
      [(node.key, [node])]) [(node.key, Value.list (runs.map SlotRun.value))] (es ++ []) (ls ++ []) :=
    Yields.bind hresolve hrest
  rw [List.append_nil, List.append_nil] at hgroups
  have htype : (env.schema.root o.kind).bind env.schema.type? = some t := by
    rw [hasks.kind]
    show env.service.schema.query.bind _ = _
    rw [hroot.root]
    exact hroot.type
  unfold executeOperation
  rw [htype]
  simp only [hasks.kind]
  refine (Yields.ofScope hasks.fieldsOf).bind ?_
  exact hgroups.together.map Value.record

end Root
end Env

end Subgraph
