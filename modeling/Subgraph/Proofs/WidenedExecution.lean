import Subgraph.Proofs.ClearDocuments
import Subgraph.Proofs.Simulation
import Subgraph.Proofs.WidenedInputs

/-!
# Execution in wide and narrow schemas

A service answers like another one when its schema widens that of the other and its resolvers and
type checks are those of the other where that one has types and fields. An operation that never asks
for a further field then runs alike on both. Only what is said of a value that claims to be of a type
which one of them lacks may differ.
-/

namespace Subgraph
open Exec

/-- The fields that an operation may ask an object of a type for under one key. The first of them
counts. -/
inductive Scope.Asks (sc : Scope) (o : Operation Nat) : NamedType → List FieldNode → Prop
  | top {t : NamedType} {groups : FieldGroups} {key : String} {nodes : List FieldNode}
      (root : (sc.query.schema.root o.kind).bind sc.query.schema.type? = some t)
      (collected : sc.fieldsOf t o.selections = .ok groups) (asked : (key, nodes) ∈ groups) :
      Asks sc o t nodes
  | under {t u : NamedType} {n : FieldNode} {more nodes : List FieldNode} {f : Field}
      {groups : FieldGroups} {key : String} (above : Asks sc o t (n :: more))
      (field : sc.query.schema.fieldOf? t n.name = some f) (object : u ∈ sc.query.schema.types)
      (completed : Env.Completes sc.query.schema f.type.base u)
      (collected : sc.fieldsBelow u (n :: more) = .ok groups) (asked : (key, nodes) ∈ groups) :
      Asks sc o u nodes

/-- No object of the query root is asked for a field of one of these names. -/
def Scope.Avoids (sc : Scope) (o : Operation Nat) (names : List String) : Prop :=
  ∀ t n more, sc.Asks o t (n :: more) → sc.query.schema.query = some t.name → n.name ∉ names

/-- What is said of a value that claims to be of a type without a shared name: that there is no such
type, or that it does not suit. -/
def Misnamed (shared : String → Prop) (m m' : String) : Prop :=
  ∃ abstract n, ¬ shared n
    ∧ m = "Abstract type '" ++ abstract ++ "' " ++ "was resolved to a type '" ++ n
      ++ "' that does not exist inside the schema."
    ∧ (m' = "Abstract type '" ++ abstract ++ "' " ++ "was resolved to a non-object type '" ++ n
        ++ "'."
      ∨ m' = "Runtime Object type '" ++ n ++ "' is not a possible type for '" ++ abstract ++ "'.")

namespace Site
variable {s : Schema} {w : String → Prop}

mutual

theorem every_of_clear (hw : ∀ n, (s.composite? n).isSome = true → w n) :
    ∀ (p : Option NamedType) (x : Selection Nat),
    (∀ site ∈ ofSelection s p x, site.Clear s) → x.Every (fun _ => True) (fun _ => True) w
  | p, .field m l n as ds bm ss, hclear => by
    rw [ofSelection] at hclear
    have hinner := everySelection_of_clear hw
      ((p.bind (s.fieldOf? · n)).bind fun f => s.composite? f.type.base) ss fun site hsite =>
        hclear site (List.mem_append_left _ (List.mem_append_right _ hsite))
    exact ⟨trivial, fun _ _ => trivial, hinner⟩
  | p, .spread m nm n ds, _ => fun _ _ => trivial
  | p, .inline m c ds ss, hclear => by
    rw [ofSelection_inline] at hclear
    have hcondition : Site.Clear s (.inline p m c ds) := hclear _ List.mem_cons_self
    refine ⟨fun x hx => hw x.2 (hcondition x hx), fun _ _ => trivial, ?_⟩
    exact everySelection_of_clear hw _ ss fun site hsite =>
      hclear site (List.mem_cons_of_mem _ (List.mem_cons_of_mem _ hsite))

theorem everySelection_of_clear (hw : ∀ n, (s.composite? n).isSome = true → w n) :
    ∀ (p : Option NamedType) (ss : List (Selection Nat)),
    (∀ site ∈ ofSelections s p ss, site.Clear s) →
    EverySelection (fun _ => True) (fun _ => True) w ss
  | _, [], _ => trivial
  | p, x :: xs, hclear => by
    rw [ofSelections] at hclear
    exact ⟨every_of_clear hw p x fun site hsite => hclear site (List.mem_append_left _ hsite),
      everySelection_of_clear hw p xs fun site hsite => hclear site (List.mem_append_right _ hsite)⟩

end
end Site

/-- A service that answers like another one wherever that one has types and fields. None of the
answers of the other one reads its schema. -/
structure Service.Widens (extra : NamedType → List Field) (shared : String → Prop) (x y : Service) :
    Prop where
  schema : x.schema.Widens extra shared y.schema
  settled : x.schema.Settled
  resolver? : ∀ t ∈ x.schema.types, ∀ n, (∀ f ∈ extra t, f.name ≠ n) →
    y.resolver? t.name n = x.resolver? t.name n
  typeCheck? : ∀ n, shared n → y.typeCheck? n = x.typeCheck? n
  tagged : ∀ n, shared n → y.taggedTypes.contains n = x.taggedTypes.contains n
  plain : ∀ r ∈ x.resolvers, ∀ c, r.2 ≠ .entities c

section Schemas
variable {extra : NamedType → List Field} {shared : String → Prop} {s s' : Schema}
  (h : s.Widens extra shared s')
include h

theorem Schema.Widens.mem_possibleTypes {abstract n : String} (hn : n ∈ s.possibleTypes abstract) :
    shared n := by
  rw [Schema.possibleTypes] at hn
  cases hs : s.shape? abstract with
  | none => rw [hs] at hn; cases hn
  | some shape =>
    obtain ⟨t, ht, rfl, hshape⟩ := Schema.mem_of_shape? hs
    rw [hs] at hn
    cases shape with
    | union ms =>
      refine h.shared_of_any ((h.wellFormed.refers t ht).members n ?_)
      rw [hshape]
      exact hn
    | interface is fs =>
      obtain ⟨u, hu, rfl⟩ := List.mem_map.mp hn
      exact h.own u (List.mem_of_mem_filter hu)
    | object is fs =>
      rw [List.mem_singleton.mp hn]
      exact h.own t ht
    | _ => cases hn

theorem Schema.Widens.isSubType_other {abstract n : String} (ha : shared abstract)
    (hn : ¬ shared n) (hobject : ∀ t, s'.type? n = some t → t.shape.isObject = true) :
    s'.isSubType abstract n = false := by
  have hpossible : n ∉ s'.possibleTypes abstract := by
    rw [h.possible abstract ha]
    exact fun hmem => hn (h.mem_possibleTypes hmem)
  rw [Schema.isSubType]
  rw [Schema.possibleTypes] at hpossible
  cases hs : s'.shape? abstract with
  | none => rfl
  | some shape =>
    rw [hs] at hpossible
    cases shape with
    | union ms => exact Bool.eq_false_iff.mpr fun hmem => hpossible (List.contains_iff_mem.mp hmem)
    | interface is fs =>
      refine Bool.eq_false_iff.mpr fun hmem => hpossible ?_
      rw [Schema.shape?] at hmem
      cases ht : s'.type? n with
      | none => rw [ht] at hmem; cases hmem
      | some t =>
        obtain ⟨htypes, hname⟩ := Schema.mem_of_type? ht
        rw [ht, Option.map_some, Option.any_some] at hmem
        refine List.mem_map.mpr ⟨t, List.mem_filter.mpr ⟨htypes, ?_⟩, hname⟩
        rw [Bool.and_eq_true]
        exact ⟨hobject t ht, hmem⟩
    | _ => rfl

theorem Schema.Widens.bare_arguments {t : NamedType} (ht : t ∈ s.types) {n : String} {f : Field}
    (hf : s.fieldOf? t n = some f) : ∀ v ∈ f.arguments, s.Bare extra shared v.type.base := by
  intro v hv
  have hfits : f ∈ t.shape.fields → s.Bare extra shared v.type.base := fun hmem =>
    h.bare_of_input ((h.wellFormed.refers t ht).inputs v (TypeShape.mem_inputs hmem hv)).type
  unfold Schema.fieldOf? at hf
  split at hf
  · cases hf
    cases hv
  split at hf
  · cases hf
    rw [List.mem_singleton.mp hv]
    exact h.bare_of_standard (n := "String") (by decide)
  split at hf
  · cases hf
    cases hv
  · exact hfits (List.mem_of_find?_eq_some hf)

section Description
open Subgraph.Description

omit h in
theorem Description.namedType_widened (t : NamedType) :
    namedType (t.widened s (extra t)) = namedType t := by
  have hkind : typeKind (t.shape.widened s (extra t)) = typeKind t.shape := by
    cases t.shape <;> rfl
  simp only [namedType, NamedType.widened_name, NamedType.widened_description,
    NamedType.widened_shape, hkind]

theorem Schema.Widens.typeOf_described {n : String} (hn : shared n) : typeOf s' n = typeOf s n := by
  rw [typeOf, typeOf, h.type? n hn]
  cases s.type? n with
  | none => rfl
  | some t => exact Description.namedType_widened t

theorem Schema.Widens.typeRef_described :
    ∀ t : TypeRef, shared t.base → typeRef s' t = typeRef s t
  | .named _, ht => h.typeOf_described ht
  | .list t, ht => by rw [typeRef, typeRef, typeRef_described t ht]
  | .nonNull t, ht => by rw [typeRef, typeRef, typeRef_described t ht]

theorem Schema.Widens.schema_described : Description.schema s' = Description.schema s := by
  have hroot : ∀ k, (s'.root k).elim (.value .null) (typeOf s')
      = (s.root k).elim (.value .null) (typeOf s) := by
    intro k
    rw [h.root k]
    cases hk : s.root k with
    | none => rfl
    | some n => exact h.typeOf_described (h.shared_of_mem (h.wellFormed.roots k n hk))
  simp only [Description.schema, hroot, h.description]

end Description
end Schemas

namespace Env

/-- The same execution on another service. -/
def on (env : Env) (y : Service) : Env :=
  { env with query := env.query.on y.schema, service := y }

section On
variable {extra : NamedType → List Field} {shared : String → Prop} {env : Env} {y : Service}
  (h : env.service.Widens extra shared y)
include h

theorem recognisedBy_on (accepts : Value → Bool) {abstract : String} (ha : shared abstract)
    (v : Value) : (env.on y).recognisedBy accepts abstract v = env.recognisedBy accepts abstract v := by
  have hpossible : (env.on y).schema.possibleTypes abstract = env.schema.possibleTypes abstract :=
    h.schema.possible abstract ha
  rw [recognisedBy, recognisedBy, hpossible]
  refine find?_eq_of_mem fun n hn => ?_
  have hcheck : (env.on y).service.typeCheck? n = env.service.typeCheck? n :=
    h.typeCheck? n (h.schema.mem_possibleTypes hn)
  rw [hcheck]

theorem runtimeType_on {abstract : String} (ha : shared abstract) (v : Value) :
    (env.on y).runtimeType abstract v = env.runtimeType abstract v := by
  have htagged : (env.on y).service.taggedTypes.contains abstract
      = env.service.taggedTypes.contains abstract := h.tagged abstract ha
  simp only [runtimeType, entityType, plainType, htagged, recognisedBy_on h _ ha]

/-- The type of an object at an abstract type, as both services see it. -/
inductive SameObject (extra : NamedType → List Field) (shared : String → Prop) (s : Schema)
    (abstract : String) : Except String NamedType → Except String NamedType → Prop
  | ok (t : NamedType) (type : t ∈ s.types) (possible : s.isSubType abstract t.name = true) :
      SameObject extra shared s abstract (.ok t) (.ok (t.widened s (extra t)))
  | error (m m' : String) (same : m' = m ∨ Misnamed shared m m') :
      SameObject extra shared s abstract (.error m) (.error m')

theorem objectType_on (place : String) {abstract : String} (ha : shared abstract) (v : Value) :
    SameObject extra shared env.schema abstract (env.objectType place abstract v)
      ((env.on y).objectType place abstract v) := by
  have hs : env.schema.Widens extra shared y.schema := h.schema
  unfold objectType
  rw [runtimeType_on h ha]
  cases env.runtimeType abstract v with
  | none => exact .error _ _ (.inl rfl)
  | some n =>
    simp only [show (env.on y).schema = y.schema from rfl]
    by_cases hn : shared n
    · rw [hs.type? n hn]
      cases ht : env.schema.type? n with
      | none => exact .error _ _ (.inl rfl)
      | some t =>
        obtain ⟨hmem, hname⟩ := Schema.mem_of_type? ht
        simp only [Option.map_some, NamedType.widened_shape, TypeShape.isObject_widened,
          hs.isSubType ha hn]
        split
        · exact .error _ _ (.inl rfl)
        · split
          · next hsub => exact .ok t hmem (hname ▸ hsub)
          · exact .error _ _ (.inl rfl)
    -- A name that is not shared is no type of the narrow schema, and none below the abstract type
    -- in the wide one.
    · have hnone : env.schema.type? n = none := by
        cases ht : env.schema.type? n with
        | none => rfl
        | some t => exact absurd (hs.shared_of_type? ht) hn
      rw [hnone]
      cases ht : y.schema.type? n with
      | none => exact .error _ _ (.inl rfl)
      | some t =>
        simp only
        split
        · exact .error _ _ (.inr ⟨abstract, n, hn, rfl, .inl rfl⟩)
        · next hobject =>
          have hsub : y.schema.isSubType abstract n = false := by
            refine hs.isSubType_other ha hn fun u hu => ?_
            rw [ht] at hu
            cases hu
            simpa using hobject
          rw [if_neg (by rw [hsub]; exact Bool.false_ne_true)]
          exact .error _ _ (.inr ⟨abstract, n, hn, rfl, .inr rfl⟩)

section Scope
variable (hq : env.query.schema = env.schema)
include hq

theorem argumentValues_on {t : NamedType} (ht : t ∈ env.schema.types) {n : String} {f : Field}
    (hf : env.schema.fieldOf? t n = some f) (as : List (Argument Nat)) :
    (env.on y).argumentValues as (f.evaluated env.schema).arguments
      = env.argumentValues as f.arguments :=
  Scope.argumentValues_same (h.schema.sameArguments h.settled hq) (fun a _ => a.value.variablesIn_true)
    f.arguments (h.schema.bare_arguments ht hf)

theorem isIncluded_on (ds : List (Directive Nat)) :
    (env.on y).isIncluded ds = env.isIncluded ds := by
  refine Scope.isIncluded_same (h.schema.sameArguments h.settled hq) (fun v hv => ?_)
    (h.schema.bare_of_standard (by decide)) fun d _ a _ => a.value.variablesIn_true
  obtain ⟨d, n, t, default?, dep, as⟩ := v
  obtain ⟨-, hdefault⟩ := hv
  simp only at hdefault
  subst hdefault
  rfl

theorem shared_of_composite? {n : String} (hn : (env.query.schema.composite? n).isSome = true) :
    shared n := by
  have hmem := Site.mem_names_of_composite? hn
  rw [hq] at hmem
  exact h.schema.shared_of_mem hmem

theorem everySelection_on {p : Option NamedType} {ss : List (Selection Nat)}
    (hclear : ∀ site ∈ Site.ofSelections env.query.schema p ss, site.Clear env.query.schema) :
    EverySelection (fun _ => True) (fun _ => True) shared ss :=
  Site.everySelection_of_clear (fun _ hn => shared_of_composite? h hq hn) p ss hclear

theorem agree_on (hc : env.query.Clear) {t : NamedType} (ht : t ∈ env.schema.types) :
    Scope.Agree (fun _ => True) (fun _ => True) shared env.toScope (env.on y).toScope t
      (t.widened env.schema (extra t)) where
  fragments := rfl
  depth := by
    have hw : env.query.schema.Widens extra shared y.schema := by
      rw [hq]
      exact h.schema
    exact QueryContext.topDepth_on hw hc
  accepted := fun f hf => ⟨shared_of_composite? h hq (hc.fragments f hf).1,
    everySelection_on h hq fun site hsite => (hc.sites site
      (QueryContext.mem_sites_of_fragment hf (List.mem_cons_of_mem _ hsite))).clear⟩
  included := fun ds _ => isIncluded_on h hq ds
  applies := by
    intro c hcondition
    show (_ || y.schema.isSubType c t.name) = (_ || env.query.schema.isSubType c t.name)
    rw [h.schema.isSubType hcondition (h.schema.own t ht), hq]
    rfl

end Scope

section Simulates

omit h in
/-- Where an operation leads an execution on both services. -/
def widening (env : Env) (o : Operation Nat) (extra : NamedType → List Field)
    (shared : String → Prop) : Correspondence where
  path := fun p p' => p' = p
  message := Misnamed shared
  trail := fun trail trail' => trail' = trail
  type := fun t t' => t ∈ env.schema.types ∧ t' = t.widened env.schema (extra t)
  body := fun u nodes => (∃ t n more f, nodes = n :: more ∧ env.toScope.Asks o t nodes
      ∧ env.schema.fieldOf? t n.name = some f ∧ Completes env.schema f.type.base u)
    ∧ ∀ n ∈ nodes, EverySelection (fun _ => True) (fun _ => True) shared n.selections
  nodes := fun t nodes => env.toScope.Asks o t nodes
    ∧ ∀ n ∈ nodes, n.Every (fun _ => True) (fun _ => True) shared
  source := fun x => ∃ v, x = .data v
  named := shared

theorem checkType_on {t : NamedType} (ht : t ∈ env.schema.types) (source : Source) :
    (env.on y).checkType (t.widened env.schema (extra t)) source = env.checkType t source := by
  have hcheck : (env.on y).service.typeCheck? (t.widened env.schema (extra t)).name
      = env.service.typeCheck? t.name := h.typeCheck? t.name (h.schema.own t ht)
  rw [checkType, checkType, hcheck]
  rfl

theorem answerField_on {b : Correspondence} {t : NamedType} (ht : t ∈ env.schema.types) {f : Field}
    (hf : ∀ g ∈ extra t, g.name ≠ f.name) (source : Source) (arguments : Entries Value)
    (describe : Unit → Described) {complete complete' : Source → Exec Value}
    (hcomplete : ∀ v, Similar b.path b.message (complete (.data v)) (complete' (.data v))) :
    Similar b.path b.message (env.answerField t source f arguments describe complete)
      ((env.on y).answerField (t.widened env.schema (extra t)) source (f.evaluated env.schema)
        arguments describe complete') := by
  have hresolver : (env.on y).service.resolver? t.name f.name = env.service.resolver? t.name f.name :=
    h.resolver? t ht f.name hf
  unfold answerField
  simp only [NamedType.widened_name, Field.evaluated_name, hresolver,
    show (env.on y).context = env.context from rfl, show (env.on y).root = env.root from rfl]
  cases hr : env.service.resolver? t.name f.name with
  | some r =>
    cases r with
    | custom answer =>
      simp only
      cases answer ⟨source.value, arguments, env.context, env.root⟩ with
      | ok v => exact hcomplete v
      | error e => exact .ofExcept _
    | sdl text => exact hcomplete _
    | entities c => exact absurd rfl (h.plain _ (mem_of_lookup hr) c)
  | none =>
    simp only
    cases source.value.answer f.name describe arguments with
    | ok v => exact hcomplete v
    | error e => exact .ofExcept _

theorem describe_on (hq : env.query.schema = env.schema) {t : NamedType}
    (ht : t ∈ env.schema.types) {n : String} {f : Field} (hf : env.schema.fieldOf? t n = some f)
    (nodes : List FieldNode) (trail : Trail) :
    Description.ofField (env.on y).toScope (env.on y).operation (env.on y).root (env.on y).context
      (t.widened env.schema (extra t)) (f.evaluated env.schema) nodes trail
    = Description.ofField env.toScope env.operation env.root env.context t f nodes trail := by
  have hschema : (env.on y).query.schema = y.schema := rfl
  have htype : Description.typeRef y.schema f.type = Description.typeRef env.schema f.type :=
    h.schema.typeRef_described f.type (h.schema.shared_fieldOf? ht hf).1
  have hdescribed : Description.schema y.schema = Description.schema env.schema :=
    h.schema.schema_described
  simp only [Description.ofField, hschema, hq, htype, hdescribed, Description.namedType_widened,
    Field.evaluated_type, Field.evaluated_name]
  rfl

omit h in
theorem resolveField_data (env : Env) {f : Field} (hschema : f.name ≠ "__schema")
    (htype : f.name ≠ "__type") (t : NamedType) (v : Value) (arguments : Entries Value)
    (describe : Unit → Described) (complete : Source → Exec Value) :
    env.resolveField t (.data v) f arguments describe complete =
      if f.name = "__typename" then complete (.data (.text t.name))
      else env.answerField t (.data v) f arguments describe complete := by
  rw [resolveField_eq, if_neg hschema, if_neg htype]
  rfl

theorem resolveField_on {b : Correspondence} {t : NamedType} (ht : t ∈ env.schema.types) {f : Field}
    (hf : ∀ g ∈ extra t, g.name ≠ f.name) (hschema : f.name ≠ "__schema") (htype : f.name ≠ "__type")
    (v : Value) (arguments : Entries Value) (describe : Unit → Described)
    {complete complete' : Source → Exec Value}
    (hcomplete : ∀ v, Similar b.path b.message (complete (.data v)) (complete' (.data v))) :
    Similar b.path b.message (env.resolveField t (.data v) f arguments describe complete)
      ((env.on y).resolveField (t.widened env.schema (extra t)) (.data v) (f.evaluated env.schema)
        arguments describe complete') := by
  have hname : (f.evaluated env.schema).name = f.name := rfl
  rw [resolveField_data _ hschema htype, resolveField_data _ (hname ▸ hschema) (hname ▸ htype)]
  by_cases htypename : f.name = "__typename"
  · rw [if_pos htypename, if_pos (hname ▸ htypename)]
    exact hcomplete _
  · rw [if_neg htypename, if_neg (hname ▸ htypename)]
    exact answerField_on h ht hf (.data v) arguments describe hcomplete

theorem completeNamed_on {b : Correspondence} (hb : b.message = Misnamed shared) (place : String)
    {n : String} (hn : shared n) (v : Value) {sub sub' : NamedType → Source → Exec Value}
    (hsub : ∀ t ∈ env.schema.types, Completes env.schema n t →
      Similar b.path b.message (sub t (.data v)) (sub' (t.widened env.schema (extra t)) (.data v))) :
    Similar b.path b.message (env.completeNamed place sub n (.data v))
      ((env.on y).completeNamed place sub' n (.data v)) := by
  have htype : (env.on y).schema.type? n
      = (env.schema.type? n).map fun t => t.widened env.schema (extra t) := h.schema.type? n hn
  unfold completeNamed
  rw [htype]
  cases ht : env.schema.type? n with
  | none => exact .pure Value.null
  | some t =>
    obtain ⟨hmem, hname⟩ := Schema.mem_of_type? ht
    simp only [Option.map_some, NamedType.widened_shape]
    cases t.shape with
    | scalar url => exact .ofExcept _
    | enum vs => exact .ofExcept _
    | object is fs => exact hsub t hmem (.inl hname)
    | _ =>
      have hobject := objectType_on h place hn (Source.data v).value
      revert hobject
      generalize env.objectType place n (Source.data v).value = r,
        (env.on y).objectType place n (Source.data v).value = r'
      intro hobject
      cases hobject with
      | ok t ht hpossible => exact hsub t ht (.inr hpossible)
      | error m m' hsame =>
        rw [← hb] at hsame
        exact fun _ _ => ⟨.error ⟨rfl, hsame, .none⟩, .nil, .nil⟩

theorem not_introspection {t : NamedType} (ht : t ∈ env.schema.types) {n : String} {f : Field}
    (hf : env.schema.fieldOf? t n = some f)
    (hroot : env.schema.query = some t.name → n ≠ "__schema" ∧ n ≠ "__type") :
    f.name ≠ "__schema" ∧ f.name ≠ "__type" := by
  by_cases hquery : env.schema.query = some t.name
  · rw [fieldOf?_name hf]
    exact hroot hquery
  · rw [Schema.fieldOf?, if_neg fun hn => hquery hn.2, if_neg fun hn => hquery hn.2] at hf
    split at hf
    · cases hf
      decide
    · have hreserved := h.schema.reserved t ht f (List.mem_of_find?_eq_some hf)
      exact ⟨hreserved.1, hreserved.2.1⟩

/-- Where an operation asks for no further field and for no part of the schema, both services run
alike. -/
theorem simulates_on (hq : env.query.schema = env.schema) (hc : env.query.Clear)
    {o : Operation Nat}
    (hasks : ∀ t n more, env.toScope.Asks o t (n :: more) → (∀ f ∈ extra t, f.name ≠ n.name)
      ∧ (env.schema.query = some t.name → n.name ≠ "__schema" ∧ n.name ≠ "__type")) :
    Simulates (widening env o extra shared) env (env.on y) where
  append := by
    rintro trail _ here rfl
    rfl
  paths := by
    rintro trail _ rfl
    rfl
  items := by
    rintro _ xs ⟨v, rfl⟩ hxs x hx
    cases v with
    | list vs =>
      cases hxs
      obtain ⟨w, -, rfl⟩ := List.mem_map.mp hx
      exact ⟨w, rfl⟩
    | _ => cases hxs
  name := by
    rintro t _ ⟨-, rfl⟩
    rfl
  returns := fun t _ n more f ht _ hf => (h.schema.shared_fieldOf? ht.1 hf).1
  inside := fun t _ n more f u _ _ _ hnodes hf hu =>
    ⟨⟨t, n, more, f, rfl, hnodes.1, hf, hu⟩, fun m hm => (hnodes.2 m hm).2⟩
  below := by
    rintro u _ nodes ⟨hu, rfl⟩ ⟨⟨t, n, more, f, rfl, hasked, hf, hcompletes⟩, hevery⟩
    obtain ⟨hsame, hcollected⟩ := (agree_on h hq hc hu).fieldsBelow hevery
    refine ⟨hsame, fun groups hgroups g hg => ⟨?_, hcollected groups hgroups g hg⟩⟩
    rw [← hq] at hf hu hcompletes
    exact .under hasked hf hu hcompletes hgroups hg
  check := by
    rintro t _ source ⟨ht, rfl⟩
    exact checkType_on h ht source
  field := by
    rintro t _ n more ⟨ht, rfl⟩ ⟨hasked, -⟩
    have hfield : (env.on y).schema.fieldOf? (t.widened env.schema (extra t)) n.name
        = (env.schema.fieldOf? t n.name).map (Field.evaluated env.schema) :=
      h.schema.fieldOf? (hasks t n more hasked).1
    rw [hfield]
    cases hf : env.schema.fieldOf? t n.name with
    | none => exact .none
    | some f => exact .some ⟨rfl, argumentValues_on h hq ht hf n.arguments⟩
  resolve := by
    rintro t _ n more f f' _ trail _ here arguments complete complete' rfl ⟨ht, rfl⟩ ⟨hasked, -⟩
      ⟨v, rfl⟩ hf hf' hcomplete
    obtain ⟨hextra, hintrospection⟩ := hasks t n more hasked
    have hevaluated : (env.on y).schema.fieldOf? (t.widened env.schema (extra t)) n.name
        = some (f.evaluated env.schema) := h.schema.fieldOf?_of_some ht hf
    cases hf'.symm.trans hevaluated
    obtain ⟨hschema, htype⟩ := not_introspection h ht hf hintrospection
    rw [describe_on h hq ht hf]
    rw [← fieldOf?_name hf] at hextra
    exact resolveField_on h ht hextra hschema htype v arguments _ fun w => hcomplete _ ⟨w, rfl⟩
  completed := by
    rintro place n _ sub sub' hn ⟨v, rfl⟩ hsub
    exact completeNamed_on h rfl place hn v fun t ht hcompletes =>
      hsub t _ _ ⟨ht, rfl⟩ hcompletes ⟨v, rfl⟩

/-- An operation of a document runs alike on both services. -/
theorem executeOperation_on (hq : env.query.schema = env.schema) (hc : env.query.Clear)
    {o : Operation Nat} (ho : o ∈ env.query.operations)
    (hasks : ∀ t n more, env.toScope.Asks o t (n :: more) → (∀ f ∈ extra t, f.name ≠ n.name)
      ∧ (env.schema.query = some t.name → n.name ≠ "__schema" ∧ n.name ≠ "__type")) :
    Similar (fun p p' => p' = p) (Misnamed shared) (env.executeOperation o)
      ((env.on y).executeOperation o) := by
  have hsimulates := simulates_on h hq hc hasks
  have hroot : ((env.on y).schema.root o.kind).bind (env.on y).schema.type?
      = ((env.schema.root o.kind).bind env.schema.type?).map
          fun t => t.widened env.schema (extra t) := by
    rw [show (env.on y).schema.root o.kind = env.schema.root o.kind from h.schema.root o.kind]
    cases hk : env.schema.root o.kind with
    | none => rfl
    | some n => exact h.schema.type? n (h.schema.shared_of_mem (h.schema.wellFormed.roots _ n hk))
  unfold executeOperation
  rw [hroot]
  cases hr : (env.schema.root o.kind).bind env.schema.type? with
  | none => exact .fail _ _
  | some t =>
    obtain ⟨n, -, htype⟩ := Option.bind_eq_some_iff.mp hr
    have ht : t ∈ env.schema.types := (Schema.mem_of_type? htype).1
    have hevery : EverySelection (fun _ => True) (fun _ => True) shared o.selections :=
      everySelection_on h hq fun site hsite => (hc.sites site
        (QueryContext.mem_sites_of_operation ho (List.mem_cons_of_mem _ hsite))).clear
    obtain ⟨hsame, hcollected⟩ := (agree_on h hq hc ht).fieldsOf hevery
    have hdepth : (env.on y).query.topDepth = env.query.topDepth := (agree_on h hq hc ht).depth
    simp only [Option.map_some]
    rw [hsame, hdepth]
    refine (Similar.ofScope _).bind_of fun groups k hgroups => ?_
    have hgroups : env.fieldsOf t o.selections = .ok groups := by
      cases hg : env.fieldsOf t o.selections with
      | error i => rw [hg] at hgroups; cases hgroups
      | ok gs => rw [hg] at hgroups; cases hgroups; rfl
    have hnodes : ∀ g ∈ groups, (widening env o extra shared).nodes t g.2 := by
      refine fun g hg => ⟨?_, hcollected groups hgroups g hg⟩
      rw [← hq] at hr
      exact .top hr hgroups hg
    have hfields := hsimulates.executeGroups
      (fun nodes u u' x _ _ hbody hu hx htrail =>
        hsimulates.executeBelow env.query.topDepth hbody hu hx htrail)
      ⟨ht, rfl⟩ ⟨env.root, rfl⟩ (show ([] : Trail) = [] from rfl) hnodes
    split
    · exact hfields.bind fun _ => .pure _
    · exact hfields.together.bind fun _ => .pure _

end Simulates

end On
end Env
end Subgraph
