import Subgraph.Proofs.Concurrence
import Subgraph.Proofs.EntityDeclarations
import Subgraph.Proofs.Independence

/-!
# The type that a slot answers under

The type of an entity goes from its representation through a tag, the type that the executor finds for
a value of the union, and the object type at which the value is completed. A slot is null, or it is
completed at the type that its representation names.
-/

namespace Subgraph

namespace Exec
variable {α β : Type} {n : Nat}

theorem of_bind_ok {m : Exec α} {f : α → Exec β} {b : β} (h : ((m >>= f) n).1 = .ok b) :
    ∃ a k, (m n).1 = .ok a ∧ (f a k).1 = .ok b := by
  change (Exec.bind m f n).1 = .ok b at h
  unfold Exec.bind at h
  cases hm : m n with
  | mk r notes =>
    rw [hm] at h
    cases r with
    | error e => cases h
    | ok a => exact ⟨a, _, rfl, h⟩

theorem of_map_ok {m : Exec α} {f : α → β} {b : β} (h : ((f <$> m) n).1 = .ok b) :
    ∃ a, (m n).1 = .ok a ∧ f a = b := by
  obtain ⟨a, k, ha, hb⟩ := of_bind_ok (f := fun a => Pure.pure (f a)) h
  exact ⟨a, ha, Except.ok.inj hb⟩

theorem of_located_ok {m : Exec α} {positions : List Nat} {path : Path} {a : α}
    (h : (located positions path m n).1 = .ok a) : (m n).1 = .ok a := by
  unfold located at h
  cases hm : m n with
  | mk r notes =>
    rw [hm] at h
    cases r with
    | error e => cases h
    | ok b => exact h

theorem of_absorb_ok {m : Exec Value} {v : Value} (h : (absorb m n).1 = .ok v) :
    v = .null ∨ (m n).1 = .ok v := by
  unfold absorb at h
  cases hm : m n with
  | mk r notes =>
    rw [hm] at h
    cases r with
    | error e => exact .inl (Except.ok.inj h).symm
    | ok w => exact .inr h

theorem of_ofExcept_ok {r : Except String α} {a : α} (h : (ofExcept r n).1 = .ok a) : r = .ok a := by
  cases r with
  | error m => cases h
  | ok b => exact congrArg Except.ok (Except.ok.inj h)

theorem of_ofScope_ok {r : Except Issue α} {a : α} (h : (ofScope r n).1 = .ok a) : r = .ok a := by
  cases r with
  | error i => cases h
  | ok b => exact congrArg Except.ok (Except.ok.inj h)

end Exec

namespace Federation

section Outcomes
variable {s : Schema} {c : Classification} {r : Request} {n : Nat} {rep w : Value} {type : String}

/-- What a representation comes to before it is tagged: it stays itself, or its reference function
gives a value, at once or later. -/
inductive ComesTo (s : Schema) (c : Classification) (r : Request) (n : Nat) (rep : Value) :
    Value → Prop where
  | itself {type : String} (plain : referenceFor s c rep = .ok (type, none)) : ComesTo s c r n rep rep
  | now {type : String} {f : Reference} {v : Value} (call : referenceFor s c rep = .ok (type, some f))
      (answer : f.answer n rep r = .now (.ok v)) : ComesTo s c r n rep v
  | later {type : String} {f : Reference} {v : Value} {k : Nat} {start finish : List String}
      (call : referenceFor s c rep = .ok (type, some f))
      (answer : f.answer n rep r = .later k start finish (.value v)) : ComesTo s c r n rep v

theorem referenceFor_type {f? : Option Reference} {t : String}
    (h : referenceFor s c rep = .ok (t, f?)) : typename rep = .ok t := by
  unfold referenceFor at h
  obtain ⟨u, hu, h⟩ := Except.of_bind_ok h
  obtain ⟨t?, -, h⟩ := Except.of_bind_ok h
  cases t? with
  | none => rw [hu, (Prod.mk.inj (Except.ok.inj h)).1]
  | some ft =>
    obtain ⟨_, -, h⟩ := Except.of_bind_ok h
    rw [hu, (Prod.mk.inj (Except.ok.inj h)).1]

/-- A representation is a record that names a type. -/
def Names (rep : Value) (type : String) : Prop :=
  ∃ es, rep = .record es ∧ Entries.get? es typenameKey = some (.text type)

theorem Names.typename (h : Names rep type) {t : String} (ht : typename rep = .ok t) : t = type := by
  obtain ⟨es, rfl, hes⟩ := h
  simp only [Federation.typename, hes] at ht
  split at ht
  · cases ht
  · exact (Except.ok.inj ht).symm

theorem slot_tagged (htype : Names rep type)
    (h : (resolveOne s c r n rep).slot.value = .ok w) :
    (∃ e, w = .failure e) ∨ ∃ v, ComesTo s c r n rep v ∧ w = tag type v := by
  unfold resolveOne at h
  cases hf : referenceFor s c rep with
  | error e =>
    rw [hf] at h
    exact .inl ⟨_, (Except.ok.inj h).symm⟩
  | ok p =>
    obtain ⟨t, f?⟩ := p
    obtain rfl : t = type := htype.typename (referenceFor_type hf)
    rw [hf] at h
    cases f? with
    | none => exact .inr ⟨rep, .itself hf, (Except.ok.inj h).symm⟩
    | some f =>
      simp only [answered] at h
      cases ha : f.answer n rep r with
      | now result =>
        rw [ha] at h
        cases result with
        | ok v => exact .inr ⟨v, .now hf ha, (Except.ok.inj h).symm⟩
        | error e => exact .inl ⟨e, (Except.ok.inj h).symm⟩
      | later k start finish o =>
        rw [ha] at h
        cases o with
        | value v => exact .inr ⟨v, .later hf ha, (Except.ok.inj h).symm⟩
        | failed e => exact .inl ⟨e, (Except.ok.inj h).symm⟩
        | interrupted e => cases h

theorem values_tagged {reps vs : List Value} (h : (resolve s c r n reps).values = .ok vs) :
    vs.length = reps.length ∧ ∀ (i : Nat) (rep : Value) (type : String), reps[i]? = some rep →
      Names rep type → ∃ w, vs[i]? = some w
        ∧ ((∃ e, w = .failure e) ∨ ∃ k v, ComesTo s c r k rep v ∧ w = tag type v) := by
  have hslots : ((resolve s c r n reps).slots.map Slot.value) = vs.map .ok := by
    refine List.ext_getElem? fun i => ?_
    rw [List.getElem?_map, List.getElem?_map]
    exact gatherValues_getElem? h i
  constructor
  · have hlength := congrArg List.length hslots
    rw [List.length_map, List.length_map, Resolution.length_slots] at hlength
    exact hlength.symm
  · intro i rep type hrep htype
    obtain ⟨k, hk⟩ := resolveAll_getElem? (s := s) (c := c) (r := r) (n := n) hrep
    have hslot := congrArg (·[i]?) hslots
    simp only [List.getElem?_map, resolve, hk] at hslot
    obtain ⟨w, hw, hvalue⟩ := Option.map_eq_some_iff.mp hslot.symm
    rcases slot_tagged htype hvalue.symm with hfailure | ⟨v, hv, htag⟩
    · exact ⟨w, hw, .inl hfailure⟩
    · exact ⟨w, hw, .inr ⟨k, v, hv, htag⟩⟩

end Outcomes

end Federation

/-- The values of the union of the entities are told apart by their tags. -/
structure Service.TagsEntities (x : Service) : Prop where
  union : ∃ ms, x.schema.shape? Federation.entityUnion = some (.union ms)
  tagged : Federation.entityUnion ∈ x.taggedTypes

/-- A value that is not tagged is of no other member of the union: no other member claims it. A sealed
object has the attributes of its class, and the name of a type is none of them. -/
structure Service.Unclaimed (x : Service) (type : String) (v : Value) : Prop where
  nameless : v.member? Federation.typenameKey = none
  unclaimed : ∀ n ∈ x.schema.possibleTypes Federation.entityUnion, n ≠ type →
    ∀ check, x.typeCheck? n = some check → Env.isTrue (check v) = false

namespace Env
open Exec Federation
variable {env : Env} {type place : String} {positions : List Nat} {trail : Trail} {v w entry : Value}
  {n : Nat} {sub : NamedType → Source → Trail → Exec Value}

/-- An entry is what comes of a value as an object of a type. -/
def CompletedAs (env : Env) (sub : NamedType → Source → Trail → Exec Value) (type : String)
    (w entry : Value) : Prop :=
  ∃ u trail n, env.schema.type? type = some u ∧ u.shape.isObject = true
    ∧ (sub u (.data w) trail n).1 = .ok entry

theorem recognisedBy_unclaimed (h : env.service.Unclaimed type v) {m : String}
    (hm : env.recognisedBy isTrue entityUnion v = some m) : m = type := by
  have hmem := List.mem_of_find?_eq_some hm
  have haccepts := List.find?_some hm
  rw [Option.any_eq_true] at haccepts
  obtain ⟨check, hcheck, htrue⟩ := haccepts
  by_contra hne
  rw [h.unclaimed m hmem hne check hcheck] at htrue
  cases htrue

theorem entityType_tag (hvalue : v.isNull = false) (hfailure : ∀ f, v ≠ .failure f)
    (h : refusesTag v = true → env.service.Unclaimed type v) {m : String}
    (hm : env.entityType entityUnion (tag type v) = some m) : m = type := by
  have hput : ∀ es : Entries Value, Entries.get? (Entries.put es typenameKey (.text type)) typenameKey
      = some (.text type) := fun es => by rw [Entries.get?_put, if_pos rfl]
  have hrefused : refusesTag v = true → tag type v = v → m = type := by
    intro hrefuses htag
    have hunclaimed := h hrefuses
    rw [htag, entityType, hunclaimed.nameless] at hm
    exact recognisedBy_unclaimed hunclaimed hm
  cases v with
  | null => cases hvalue
  | missing => cases hvalue
  | failure f => exact absurd rfl (hfailure f)
  | record es =>
    simp only [entityType, tag, Value.member?, hput] at hm
    exact (Option.some.inj hm).symm
  | object k as =>
    cases k with
    | entity =>
      simp only [entityType, tag, ObjectKind.isOpen, if_true, Value.member?, hput] at hm
      exact (Option.some.inj hm).symm
    | slots => exact hrefused rfl rfl
  | bool b => exact hrefused rfl rfl
  | int k => exact hrefused rfl rfl
  | float d => exact hrefused rfl rfl
  | text t => exact hrefused rfl rfl
  | list xs => exact hrefused rfl rfl

theorem complete_named {name : String} (hfailure : ∀ f, w ≠ .failure f) :
    env.complete place positions sub (.named name) (.data w) trail
      = if w.isNull then Exec.pure .null
        else env.completeNamed place (fun t x => sub t x trail) name (.data w) := by
  cases w with
  | failure f => exact absurd rfl (hfailure f)
  | _ => rfl

theorem complete_union (h : env.service.TagsEntities) (hfailure : ∀ f, w ≠ .failure f)
    (hw : ∀ m, env.entityType entityUnion w = some m → m = type)
    (hrun : (env.complete place positions sub (.named entityUnion) (.data w) trail n).1 = .ok entry) :
    entry = .null ∨ env.CompletedAs sub type w entry := by
  rw [complete_named hfailure] at hrun
  split at hrun
  · exact .inl (Except.ok.inj hrun).symm
  · obtain ⟨ms, hms⟩ := h.union
    obtain ⟨t, ht, hshape⟩ := Option.map_eq_some_iff.mp hms
    have htype : env.schema.type? entityUnion = some t := ht
    simp only [completeNamed, htype, hshape] at hrun
    cases hu : env.objectType place entityUnion w with
    | error m =>
      rw [show (Source.data w).value = w from rfl, hu] at hrun
      cases of_ofExcept_ok hrun
    | ok u =>
      rw [show (Source.data w).value = w from rfl, hu] at hrun
      obtain ⟨m, hm, hmtype, hobject, -⟩ := objectType_ok hu
      rw [runtimeType, if_pos (List.contains_iff_mem.mpr h.tagged)] at hm
      obtain rfl := hw m hm
      exact .inr ⟨u, trail, n, hmtype, hobject, hrun⟩

/-- What has been tagged is null in its slot, or it is completed at the type of its tag. -/
theorem complete_tagged (h : env.service.TagsEntities)
    (hv : refusesTag v = true → env.service.Unclaimed type v)
    (hrun : (env.complete place positions sub (.named entityUnion) (.data (tag type v)) trail n).1
      = .ok entry) : entry = .null ∨ env.CompletedAs sub type (tag type v) entry := by
  have hplain : v.isNull = false → (∀ f, v ≠ .failure f) → ∀ f, tag type v ≠ .failure f := by
    intro _ hfailure f
    cases v with
    | failure g => exact absurd rfl (hfailure g)
    | object k as => cases k <;> exact nofun
    | _ => exact nofun
  by_cases hnull : v.isNull = true
  · cases v with
    | null => exact .inl (Except.ok.inj hrun).symm
    | missing => exact .inl (Except.ok.inj hrun).symm
    | _ => cases hnull
  by_cases hfailure : ∀ f, v ≠ .failure f
  · rw [Bool.not_eq_true] at hnull
    exact complete_union h (hplain hnull hfailure)
      (fun m hm => entityType_tag hnull hfailure hv hm) hrun
  · rw [not_forall] at hfailure
    obtain ⟨f, hf⟩ := hfailure
    obtain rfl := not_not.mp hf
    cases of_ofExcept_ok hrun

theorem complete_failure {f : Failure}
    (hrun : (env.complete place positions sub (.named entityUnion) (.data (.failure f)) trail n).1
      = .ok entry) : False := by
  cases of_ofExcept_ok hrun

theorem of_settle_ok {t : String} {m : Exec Value}
    (h : (settle (.named t) m n).1 = .ok entry) : entry = .null ∨ (m n).1 = .ok entry :=
  of_absorb_ok h

theorem of_completeItems_ok {t : TypeRef} {item : Source → Trail → Exec Value} {xs : List Source}
    {index : Nat} {entries : List Value}
    (h : (completeItems positions t item trail index xs n).1 = .ok entries) :
    List.Forall₂ (fun x entry => ∃ here k,
      (settle t (located positions (Trail.path here) (item x here)) k).1 = .ok entry) xs entries := by
  induction xs generalizing index n entries with
  | nil =>
    obtain rfl : [] = entries := Except.ok.inj h
    exact .nil
  | cons x xs ih =>
    obtain ⟨entry, k, hentry, h⟩ := of_bind_ok h
    obtain ⟨rest, k', hrest, h⟩ := of_bind_ok h
    obtain rfl : entry :: rest = entries := Except.ok.inj h
    exact .cons ⟨_, _, hentry⟩ (ih hrest)

theorem of_complete_list {vs : List Value}
    (h : (env.complete place positions sub (.nonNull (.list (.named entityUnion))) (.data (.list vs))
      trail n).1 = .ok w) :
    ∃ entries, w = .list entries ∧ List.Forall₂ (fun v entry => entry = .null ∨ ∃ here k,
      (env.complete place positions sub (.named entityUnion) (.data v) here k).1 = .ok entry) vs
        entries := by
  obtain ⟨a, k, hlist, h⟩ := of_bind_ok h
  obtain ⟨entries, k', hitems, ha⟩ := of_bind_ok hlist
  obtain rfl : Value.list entries = a := Except.ok.inj ha
  refine ⟨entries, (Except.ok.inj h).symm, ?_⟩
  have hall := of_completeItems_ok hitems
  rw [List.forall₂_map_left_iff] at hall
  refine hall.imp fun v entry ⟨here, k, hentry⟩ => ?_
  exact (of_settle_ok hentry).imp id fun hrun => ⟨here, k, of_located_ok hrun⟩

theorem of_entities_ok {c : Classification} {parent : String} {arguments : Entries Value}
    {complete : Source → Exec Value}
    (h : (env.entities c parent place arguments complete n).1 = .ok w) :
    ∃ k vs k', (resolve env.schema c (env.entitiesRequest parent) k (representations arguments)).values
      = .ok vs ∧ (complete (.data (.list vs)) k').1 = .ok w := by
  rw [entities_eq] at h
  obtain ⟨k, _, hk, h⟩ := of_bind_ok h
  obtain ⟨_, k', _, h⟩ := of_bind_ok h
  unfold deliver at h
  split at h
  · cases of_ofExcept_ok h
  · cases hvs : (resolve env.schema c (env.entitiesRequest parent) k (representations arguments)).values with
    | error f =>
      rw [hvs] at h
      cases of_ofExcept_ok h
    | ok vs =>
      simp only [hvs] at h
      refine ⟨k, vs, k', hvs, ?_⟩
      split at h
      · exact h
      · exact h

/-- Every entry is null, or it shows an outcome of its representation, which no other member of the union
may claim, as an object of the type that the representation names. -/
def KeepsTypes (env : Env) (c : Classification) (parent : String)
    (below : NamedType → Source → Trail → Exec Value) (reps entries : List Value) : Prop :=
  entries.length = reps.length ∧ ∀ (i : Nat) (rep : Value) (type : String), reps[i]? = some rep →
    Names rep type → ∃ entry, entries[i]? = some entry
      ∧ (entry = .null ∨ ∃ k v, ComesTo env.schema c (env.entitiesRequest parent) k rep v
        ∧ ((refusesTag v = true → env.service.Unclaimed type v) →
          entry = .null ∨ env.CompletedAs below type (tag type v) entry))

theorem values_completed (h : env.service.TagsEntities) {c : Classification} {parent : String} {k : Nat}
    {reps vs entries : List Value}
    (hvs : (resolve env.schema c (env.entitiesRequest parent) k reps).values = .ok vs)
    (hentries : List.Forall₂ (fun v entry => entry = .null ∨ ∃ here k,
      (env.complete place positions sub (.named entityUnion) (.data v) here k).1 = .ok entry) vs entries) :
    env.KeepsTypes c parent sub reps entries := by
  obtain ⟨hlength, hvalues⟩ := values_tagged hvs
  refine ⟨hentries.length_eq.symm.trans hlength, fun i rep type hrep hnames => ?_⟩
  obtain ⟨w, hw, hcomes⟩ := hvalues i rep type hrep hnames
  obtain ⟨hi, rfl⟩ := List.getElem?_eq_some_iff.mp hw
  have hi' : i < entries.length := hentries.length_eq ▸ hi
  refine ⟨entries[i], List.getElem?_eq_getElem hi', ?_⟩
  rcases hentries.get hi hi' with hnull | ⟨here, k', hrun⟩
  · exact .inl hnull
  · rcases hcomes with ⟨e, he⟩ | ⟨k, v, hv, htag⟩
    · rw [List.get_eq_getElem, he] at hrun
      exact absurd hrun fun hrun => complete_failure hrun
    · rw [List.get_eq_getElem, htag] at hrun
      exact .inr ⟨k, v, hv, fun hunclaimed => complete_tagged h hunclaimed hrun⟩

theorem executeField_keeps (h : env.service.TagsEntities) {t : NamedType} {f : Field}
    {node : FieldNode} {more : List FieldNode} {c : Classification} {data : Value} {key : String}
    {below : List FieldNode → NamedType → Source → Trail → Exec Value} {answer : Option Value}
    (hname : node.name = entitiesField) (hf : env.schema.fieldOf? t node.name = some f)
    (htype : f.type = .nonNull (.list (.named entityUnion)))
    (hresolver : env.service.resolver? t.name entitiesField = some (.entities c))
    (hrun : (env.executeField below t (.data data) trail key (node :: more) n).1 = .ok answer) :
    ∃ arguments entries, env.argumentValues node.arguments f.arguments = .ok arguments
      ∧ answer = some (.list entries)
      ∧ env.KeepsTypes c t.name (below (node :: more)) (representations arguments) entries := by
  rw [executeField_known hf] at hrun
  obtain ⟨v, hv, rfl⟩ := of_map_ok hrun
  rw [htype] at hv
  have hanswer := of_located_ok (show (located _ _ _ n).1 = .ok v from hv)
  obtain ⟨arguments, k, harguments, hfield⟩ := of_bind_ok hanswer
  have hfname : f.name = entitiesField := (fieldOf?_name hf).trans hname
  rw [resolveField_eq, hfname, if_neg (by decide), if_neg (by decide), if_neg (by decide)] at hfield
  have hentities : (env.entities c t.name (t.name ++ "." ++ entitiesField) arguments
      (fun x => env.complete (t.name ++ "." ++ node.name) ((node :: more).map (·.mark))
        (below (node :: more)) (.nonNull (.list (.named entityUnion))) x
        (trail ++ [(.key key, some t.name)])) k).1 = .ok v := by
    rw [← hfield]
    show _ = (env.answerField t (.data data) f arguments _ _ k).1
    unfold answerField
    rw [hfname, hresolver]
  obtain ⟨k', vs, k'', hvs, hcomplete⟩ := of_entities_ok hentities
  obtain ⟨entries, rfl, hentries⟩ := of_complete_list hcomplete
  exact ⟨arguments, entries, of_ofScope_ok harguments, rfl, values_completed h hvs hentries⟩

end Env

namespace Federation
open Config Build

section Runs
variable {registry : Registry} {x y : Service} {config : Config} {c : Classification} {sdl : String}

/-- Whether some field of a service is answered with entities. -/
def Dispatches (x : Service) : Prop := ∃ key c, (key, Resolver.entities c) ∈ x.resolvers

theorem Transforms.tags (hl : Listed x.schema) (hx : Dispatches x → x.TagsEntities)
    (h : Transforms x config c sdl y) (hy : Dispatches y) : y.TagsEntities := by
  obtain ⟨s₁, hadd, hs₁⟩ := extend_eq h.extends
  have hshape : y.schema.shape? entityUnion = s₁.shape? entityUnion := by
    rw [← hs₁, Schema.shape?, Schema.shape?, type?_placeBuiltins (by decide)]
  by_cases hnone : c.entityNames = []
  · obtain ⟨key, c', hmem⟩ := hy
    rw [h.resolvers, protocolResolvers, hnone] at hmem
    have hbefore : Dispatches x := by
      rcases List.mem_append.mp hmem with hmem | hmem
      · cases List.mem_singleton.mp hmem
      · exact ⟨key, c', List.mem_of_mem_filter hmem⟩
    obtain ⟨⟨ms, hms⟩, htagged⟩ := hx hbefore
    rw [hnone] at hadd
    refine ⟨⟨ms, hshape.trans ((union_without_entities hl.names hadd ms).mpr hms)⟩, ?_⟩
    rw [h.taggedTypes, hnone]
    exact htagged
  · refine ⟨⟨_, hshape.trans (union_of_entities hl.names hnone hadd)⟩, ?_⟩
    have hempty : c.entityNames.isEmpty = false := by simpa using hnone
    rw [h.taggedTypes, hempty, if_neg Bool.false_ne_true]
    exact List.mem_cons_self

theorem run_tags {raws : List Raw} {old : List LogRecord} (hl : Listed x.schema)
    (hx : Dispatches x → x.TagsEntities)
    (hrun : ((raws.foldlM (transform registry) x) old).1 = .ok y) (hy : Dispatches y) :
    y.TagsEntities := by
  -- By induction on the configurations still to come, from the law for one transformation.
  induction raws generalizing x old with
  | nil =>
    obtain rfl : x = y := Except.ok.inj hrun
    exact hx hy
  | cons raw raws ih =>
    rw [List.foldlM_cons] at hrun
    obtain ⟨x', old', hstep, hrest⟩ := Logged.of_bind_ok hrun
    obtain ⟨config, c, sdl, -, htransforms⟩ := transform_ok hstep
    exact ih (hl.extend htransforms.extends) (htransforms.tags hl hx) hrest

end Runs

theorem tag_record (type : String) (es : Entries Value) : ∃ es', tag type (.record es) = .record es'
    ∧ Entries.get? es' typenameKey = some (.text type)
    ∧ ∀ n, n ≠ typenameKey → Entries.get? es' n = Entries.get? es n := by
  refine ⟨Entries.put es typenameKey (.text type), rfl, ?_, fun n hn => ?_⟩
  · rw [Entries.get?_put, if_pos rfl]
  · rw [Entries.get?_put, if_neg hn]

section Products

/-- How the query root answers a field for the entities of some products. -/
def productsAnswer (y : Service) (t : NamedType) (reps : List Value) :
    Except QueryError (Option Value) :=
  let q := productsQuery y.schema [bareField 77 "id" []] reps
  let env := q.env y plainRequest [("r", .list reps)]
  (env.executeField (env.executeBelow env.query.topDepth) t (.data .null) [] q.field.key [q.field] 0).1

/-- A product is answered as a product, beside what is no representation. -/
def answersProduct (y : Service) : Bool :=
  match y.schema.query.bind y.schema.type? with
  | some t =>
    match productsAnswer y t mixedList with
    | .ok (some (.list [.record [("id", .text "1")], .null])) => true
    | _ => false
  | none => false

end Products

end Federation
end Subgraph
