import Subgraph.Proofs.EchoedSchema
import Subgraph.Proofs.LegibleDocuments
import Subgraph.Proofs.Resolved
import Subgraph.Schema.Read

/-!
# Schemas that were read

A schema that is built from a document that was read has a readable SDL: its names are those of the
document, all its references have been resolved, and its defaults stand as they are written.
-/

namespace Subgraph

namespace Build

section Making
variable {t : NamedType}

theorem legible_inputValue {d : InputDefinition Unit} (h : d.IsWritable) : (inputValue d).IsLegible :=
  ⟨h.name, h.type, h.directives⟩

theorem legible_field {d : FieldDefinition Unit} (h : d.IsWritable) : (field d).IsLegible where
  name := h.name
  arguments := by
    intro v hv
    obtain ⟨e, he, rfl⟩ := List.mem_map.mp hv
    exact legible_inputValue (h.arguments e he)
  type := h.type
  directives := h.directives

theorem legible_enumValue {d : EnumValueDefinition Unit} (h : d.IsWritable) : (enumValue d).IsLegible :=
  ⟨h.name, h.unreserved, h.directives⟩

theorem legible_shape {d : TypeDefinition Unit} (h : d.IsWritable) : (shape d).IsLegible := by
  have hfields : ∀ fs : List (FieldDefinition Unit), (∀ f ∈ fs, f.IsWritable) →
      ∀ f ∈ fs.map field, f.IsLegible := by
    intro fs hfs f hf
    obtain ⟨g, hg, rfl⟩ := List.mem_map.mp hf
    exact legible_field (hfs g hg)
  have hbody := h.body
  unfold shape
  cases hd : d.body with
  | scalar => trivial
  | object is fs => rw [hd] at hbody; exact ⟨hbody.1, hfields fs hbody.2⟩
  | interface is fs => rw [hd] at hbody; exact ⟨hbody.1, hfields fs hbody.2⟩
  | union ms => rw [hd] at hbody; exact hbody
  | enum vs =>
    rw [hd] at hbody
    intro v hv
    obtain ⟨w, hw, rfl⟩ := List.mem_map.mp hv
    exact legible_enumValue (hbody w hw)
  | input fs =>
    rw [hd] at hbody
    intro v hv
    obtain ⟨w, hw, rfl⟩ := List.mem_map.mp hv
    exact legible_inputValue (hbody w hw)

theorem legible_addShape {a b : TypeShape} (ha : a.IsLegible) (hb : b.IsLegible) :
    (addShape a b).IsLegible := by
  cases a <;> cases b
  case object.object =>
    exact ⟨List.forall_mem_append.mpr ⟨ha.1, hb.1⟩, List.forall_mem_append.mpr ⟨ha.2, hb.2⟩⟩
  case interface.interface =>
    exact ⟨List.forall_mem_append.mpr ⟨ha.1, hb.1⟩, List.forall_mem_append.mpr ⟨ha.2, hb.2⟩⟩
  case union.union => exact List.forall_mem_append.mpr ⟨ha, hb⟩
  case enum.enum => exact List.forall_mem_append.mpr ⟨ha, hb⟩
  case input.input => exact List.forall_mem_append.mpr ⟨ha, hb⟩
  all_goals exact ha

theorem legible_extended {es : List (TypeDefinition Unit)} (ht : t.IsLegible) (hes : ∀ e ∈ es, e.IsWritable) :
    (es.foldl addExtension t).IsLegible := by
  induction es generalizing t with
  | nil => exact ht
  | cons e es ih =>
    have he := hes e List.mem_cons_self
    refine ih ⟨ht.name, ?_, ?_⟩ fun f hf => hes f (List.mem_cons_of_mem e hf)
    · exact legible_addShape ht.shape (legible_shape he)
    · exact List.forall_mem_append.mpr ⟨ht.directives, he.directives⟩

theorem of_mem_settledFields {fs : List Field} {f : Field}
    (h : f ∈ lastByName (·.name) (fs.map settleField)) :
    ∃ g ∈ fs, f = settleField g ∧ f.arguments ⊆ g.arguments := by
  obtain ⟨g, hg, rfl⟩ := List.mem_map.mp (mem_of_mem_lastByName h)
  exact ⟨g, hg, rfl, fun v hv => mem_of_mem_lastByName hv⟩

theorem legible_settle (h : t.IsLegible) : (settle t).IsLegible := by
  have hfields : ∀ fs : List Field, (∀ f ∈ fs, f.IsLegible) →
      ∀ f ∈ lastByName (·.name) (fs.map settleField), f.IsLegible := by
    intro fs hfs f hf
    obtain ⟨g, hg, rfl, hsub⟩ := of_mem_settledFields hf
    exact ⟨(hfs g hg).name, fun v hv => (hfs g hg).arguments v (hsub hv), (hfs g hg).type,
      (hfs g hg).directives⟩
  obtain ⟨description, name, shape, applied⟩ := t
  refine ⟨h.name, ?_, h.directives⟩
  have hshape := h.shape
  cases shape with
  | object is fs => exact ⟨hshape.1, hfields fs hshape.2⟩
  | interface is fs => exact ⟨hshape.1, hfields fs hshape.2⟩
  | enum vs => exact fun v hv => hshape v (mem_of_mem_lastByName hv)
  | input o fs => exact fun v hv => hshape v (mem_of_mem_lastByName hv)
  | scalar url => trivial
  | union ms => exact hshape

theorem distinct_settle (t : NamedType) : (settle t).shape.Distinct := by
  have hfields : ∀ fs : List Field, ((lastByName (·.name) (fs.map settleField)).map (·.name)).Nodup
      ∧ ∀ f ∈ lastByName (·.name) (fs.map settleField), (f.arguments.map (·.name)).Nodup := by
    refine fun fs => ⟨lastByName_nodup, fun f hf => ?_⟩
    obtain ⟨g, -, rfl, -⟩ := of_mem_settledFields hf
    exact lastByName_nodup
  obtain ⟨description, name, shape, applied⟩ := t
  cases shape with
  | object is fs => exact hfields fs
  | interface is fs => exact hfields fs
  | enum vs => exact lastByName_nodup
  | input o fs => exact lastByName_nodup
  | scalar url => trivial
  | union ms => trivial

theorem inputs_settle (t : NamedType) : (settle t).shape.inputs ⊆ t.shape.inputs := by
  have hfields : ∀ fs : List Field, (lastByName (·.name) (fs.map settleField)).flatMap (·.arguments)
      ⊆ fs.flatMap (·.arguments) := by
    intro fs v hv
    obtain ⟨f, hf, hv⟩ := List.mem_flatMap.mp hv
    obtain ⟨g, hg, -, hsub⟩ := of_mem_settledFields hf
    exact List.mem_flatMap.mpr ⟨g, hg, hsub hv⟩
  obtain ⟨description, name, shape, applied⟩ := t
  cases shape with
  | object is fs => exact hfields fs
  | interface is fs => exact hfields fs
  | input o fs => exact fun v hv => mem_of_mem_lastByName hv
  | _ => exact fun v hv => hv

theorem refers_settle {s : Schema} (h : t.shape.Refers s) : (settle t).shape.Refers s := by
  have hinputs := fun v hv => h.inputs v (inputs_settle t hv)
  have hfields : ∀ fs : List Field, (∀ f ∈ fs, (s.shape? f.type.base).any TypeShape.isOutput = true
        ∧ HasReadableDeprecation f.applied) →
      ∀ f ∈ lastByName (·.name) (fs.map settleField), (s.shape? f.type.base).any TypeShape.isOutput = true
        ∧ HasReadableDeprecation f.applied := by
    intro fs hfs f hf
    obtain ⟨g, hg, rfl, -⟩ := of_mem_settledFields hf
    exact hfs g hg
  obtain ⟨description, name, shape, applied⟩ := t
  cases shape with
  | object is fs => exact ⟨h.interfaces, nofun, hfields fs h.fields, hinputs⟩
  | interface is fs => exact ⟨h.interfaces, nofun, hfields fs h.fields, hinputs⟩
  | _ => exact ⟨h.interfaces, h.members, h.fields, hinputs⟩

end Making

section Written
variable {t : NamedType}

/-- The inputs of a type that is defined are written as they are defined. -/
def IsWritten (shape : TypeShape) : Prop := ∀ v ∈ shape.inputs, ∀ d, v.default? ≠ some (.value d)

theorem inputValue_written (e : InputDefinition Unit) (d : Value) :
    (inputValue e).default? ≠ some (.value d) := by
  rw [inputValue]
  cases e.default? <;> simp

theorem written_shape (d : TypeDefinition Unit) : IsWritten (shape d) := by
  have hfields : ∀ fs : List (FieldDefinition Unit), ∀ v ∈ (fs.map field).flatMap (·.arguments),
      ∀ d, v.default? ≠ some (.value d) := by
    intro fs v hv
    obtain ⟨f, hf, hv⟩ := List.mem_flatMap.mp hv
    obtain ⟨g, -, rfl⟩ := List.mem_map.mp hf
    obtain ⟨e, -, rfl⟩ := List.mem_map.mp hv
    exact inputValue_written e
  unfold shape
  cases d.body with
  | object is fs => exact hfields fs
  | interface is fs => exact hfields fs
  | input fs =>
    intro v hv
    obtain ⟨e, -, rfl⟩ := List.mem_map.mp hv
    exact inputValue_written e
  | _ => exact fun v hv => absurd hv List.not_mem_nil

theorem inputs_addShape {a b : TypeShape} {v : InputValue} (h : v ∈ (addShape a b).inputs) :
    v ∈ a.inputs ∨ v ∈ b.inputs := by
  cases a <;> cases b
  case object.object | interface.interface =>
    rw [addShape, TypeShape.inputs, TypeShape.fields, List.flatMap_append] at h
    · exact List.mem_append.mp h
    · rintro _ _ ⟨⟩
  case input.input => exact List.mem_append.mp h
  all_goals exact .inl h

theorem written_extended {es : List (TypeDefinition Unit)} (ht : IsWritten t.shape) :
    IsWritten (es.foldl addExtension t).shape := by
  induction es generalizing t with
  | nil => exact ht
  | cons e es ih =>
    refine ih fun v hv => ?_
    rcases inputs_addShape hv with hv | hv
    · exact ht v hv
    · exact written_shape e v hv

end Written

section Lookup
variable {s s' : Schema}

theorem refers_of_references {t : NamedType} (h : t.shape.Refers s)
    (hkind : ∀ n ∈ references t, ∀ sh, s.shape? n = some sh → s'.shape? n = some sh) : t.shape.Refers s' := by
  have hany : ∀ (p : TypeShape → Bool) (n : String), n ∈ references t →
      (s.shape? n).any p = true → (s'.shape? n).any p = true := by
    intro p n hn hp
    cases hs : s.shape? n with
    | none => rw [hs] at hp; cases hp
    | some sh => rw [hkind n hn sh hs, ← hs]; exact hp
  have hinterface : ∀ n ∈ t.shape.interfaces, n ∈ references t := by
    intro n hn
    unfold references
    cases hs : t.shape <;> rw [hs] at hn
    case object | interface => exact List.mem_append_left _ hn
    all_goals cases hn
  have hmember : ∀ n ∈ t.shape.members, n ∈ references t := by
    intro n hn
    unfold references
    cases hs : t.shape <;> rw [hs] at hn
    case union => exact hn
    all_goals cases hn
  have hfield : ∀ f ∈ t.shape.fields, f.type.base ∈ references t := by
    intro f hf
    unfold references
    cases hs : t.shape <;> rw [hs] at hf
    case object | interface =>
      exact List.mem_append_right _ (List.mem_flatMap.mpr ⟨f, hf, List.mem_cons_self⟩)
    all_goals cases hf
  exact {
    interfaces := fun n hn => hany _ n (hinterface n hn) (h.interfaces n hn)
    members := fun n hn => hany _ n (hmember n hn) (h.members n hn)
    fields := fun f hf => ⟨hany _ _ (hfield f hf) (h.fields f hf).1, (h.fields f hf).2⟩
    inputs := fun v hv =>
      ⟨hany _ _ (Federation.base_mem_references hv) (h.inputs v hv).type, (h.inputs v hv).deprecation⟩ }

end Lookup

/-- What a document makes: its types, settled, among the built-in types, its directives and its roots. -/
structure Makes (doc : Document Unit) (ts : List NamedType) (s : Schema) : Prop where
  types : s.types = withBuiltins (ts.map settle) s.directives
  distinct : (ts.map (·.name)).Nodup
  resolved : (Draft.ofTypes ts).resolve ((parts doc).directives.flatMap (·.arguments.map inputValue)) = .ok ()
  directives : ∀ d ∈ s.directives, d.isSpecified = true ∨ ∃ e ∈ (parts doc).directives, d = directiveType e
  description : s.description = (parts doc).schemas.getLast?.bind (·.1)
  roots : ∀ k n, s.root k = some n → n ∈ s.types.map (·.name) ∨ isBuiltinName n = true
  named : ∀ k n, s.root k = some n → (k, n) ∈ namedRoots doc ∨ n = Schema.defaultRoot k
  defined : (parts doc).schemas ≠ [] → ∀ k, s.root k = rootOf k (namedRoots doc) none

theorem mem_of_rootOf {k : OperationKind} {os : List (OperationKind × String)} {n : String}
    (h : rootOf k os none = some n) : (k, n) ∈ os := by
  unfold rootOf at h
  split at h
  · next o ho =>
    obtain rfl := Option.some.inj h
    have hkind := List.find?_some ho
    rw [← eq_of_beq hkind]
    exact List.mem_reverse.mp (List.mem_of_find?_eq_some ho)
  · cases h

theorem of_add_empty {doc : Document Unit} {s : Schema} (h : Schema.empty.add doc = .ok s) :
    ∃ ts : List NamedType, s.types = ts.map settle ∧ (ts.map (·.name)).Nodup
      ∧ (Draft.ofTypes ts).resolve ((parts doc).directives.flatMap (·.arguments.map inputValue)) = .ok ()
      ∧ s.directives = (parts doc).directives.map directiveType
      ∧ s.description = (parts doc).schemas.getLast?.bind (·.1)
      ∧ ∀ k, s.root k = rootOf k (namedRoots doc) none := by
  obtain ⟨-, -, -, hresolve, -, rfl⟩ := adds_of_ok h
  refine ⟨addedTypes .empty (parts doc), rfl, lastByName_nodup, hresolve, rfl, Option.or_none,
    fun k => ?_⟩
  cases k <;> rfl

theorem makes_of_build {doc : Document Unit} {s : Schema} (h : Schema.build doc = .ok s) :
    ∃ ts, Makes doc ts s := by
  obtain ⟨s₀, hadd, h⟩ := Except.of_bind_ok h
  obtain ⟨ts, htypes, hnodup, hresolve, hdirectives, hdescription, hroots⟩ := of_add_empty hadd
  have hroot : ∀ k, s.root k = if (parts doc).schemas.isEmpty && (s₀.type? (Schema.defaultRoot k)).isSome
      then some (Schema.defaultRoot k) else s₀.root k := by
    intro k
    cases h
    cases k <;> simp only [Schema.placeBuiltins, Schema.root, Bool.not_not]
  have hplaced : s.types = withBuiltins s₀.types s.directives := by
    cases h
    rfl
  have hkept : ∀ n ∈ s₀.types.map (·.name), n ∈ s.types.map (·.name) := by
    intro n hn
    obtain ⟨t, ht, rfl⟩ := List.mem_map.mp hn
    rw [hplaced]
    exact List.mem_map_of_mem ((withBuiltins_placed (add_names hadd) _).kept t ht)
  refine ⟨ts, ⟨by rw [hplaced, htypes], hnodup, hresolve, fun d hd => ?_, ?_, fun k n hk => ?_,
    fun k n hk => ?_, fun hne k => ?_⟩⟩
  · cases h
    rcases List.mem_append.mp hd with hd | hd
    · rw [hdirectives] at hd
      obtain ⟨e, he, rfl⟩ := List.mem_map.mp hd
      exact .inr ⟨e, he, rfl⟩
    · have hall : ∀ d ∈ Builtin.directives, d.isSpecified = true := by decide +kernel
      exact .inl (hall d (List.mem_of_mem_filter hd))
  · rw [← hdescription]
    cases h
    rfl
  -- A root is the default one of its operation, or it is named in the document.
  · rw [hroot] at hk
    split at hk
    · next hdefault =>
      obtain ⟨t, ht⟩ := Option.isSome_iff_exists.mp (Bool.and_eq_true_iff.mp hdefault).2
      obtain ⟨hmem, hname⟩ := Schema.mem_of_type? ht
      rw [← Option.some.inj hk, ← hname]
      exact .inl (hkept _ (List.mem_map_of_mem hmem))
    · rw [hroots] at hk
      exact (add_known hadd (mem_of_rootOf hk)).imp_left (hkept n)
  · rw [hroot] at hk
    split at hk
    · exact .inr (Option.some.inj hk).symm
    · rw [hroots] at hk
      exact .inl (mem_of_rootOf hk)
  · rw [hroot, List.isEmpty_eq_false_iff.mpr hne, Bool.false_and, if_neg Bool.false_ne_true, hroots]

namespace Makes
variable {doc : Document Unit} {ts : List NamedType} {s : Schema} (h : Makes doc ts s) (hb : s.Built)
include h

theorem settled_distinct : ((ts.map settle).map (·.name)).Nodup := by
  rw [List.map_map]
  exact h.distinct

include hb

theorem shape_kept {n : String} {sh : TypeShape} (hn : isBuiltinName n = true → n ∈ s.types.map (·.name))
    (hsh : (Draft.ofTypes ts).settled.shape? n = some sh) : s.shape? n = some sh := by
  obtain ⟨t, ht, rfl, rfl⟩ := Schema.mem_of_shape? hsh
  rcases List.mem_append.mp ht with ht | ht
  · refine Schema.shape?_of_mem hb.names ?_
    rw [h.types]
    exact (withBuiltins_placed (h.settled_distinct) _).kept t ht
  · have hnodup : ((Builtin.scalars ++ Builtin.introspection).map (·.name)).Nodup := by decide +kernel
    have htype : Builtin.type? t.name = some t := find?_of_mem hnodup (List.mem_of_mem_filter ht)
    have hname := (Builtin.type?_name htype).2
    obtain ⟨u, hu, heq⟩ := List.mem_map.mp (hn hname)
    have hbuiltin := hb.builtin u hu (by rw [heq]; exact hname)
    rw [heq, htype] at hbuiltin
    rw [← heq, Option.some.inj hbuiltin]
    exact Schema.shape?_of_mem hb.names hu

theorem refers {t : NamedType} (ht : t ∈ ts.map settle) : t.shape.Refers s := by
  obtain ⟨u, hu, rfl⟩ := List.mem_map.mp ht
  have hdraft := refers_settle ((Draft.refers_of_resolve h.distinct h.resolved).1 u hu)
  refine refers_of_references hdraft fun n hn sh hsh => h.shape_kept hb (fun hbuiltin => ?_) hsh
  rw [h.types]
  exact mem_withBuiltins (h.settled_distinct) _ ht hn hbuiltin

theorem fits {e : DirectiveDefinition Unit} (he : e ∈ (parts doc).directives)
    (hd : directiveType e ∈ s.directives)
    {v : InputValue} (hv : v ∈ (directiveType e).arguments) : v.Fits s := by
  have hdraft := (Draft.refers_of_resolve h.distinct h.resolved).2 v
    (List.mem_flatMap.mpr ⟨e, he, mem_of_mem_lastByName hv⟩)
  refine ⟨?_, hdraft.deprecation⟩
  obtain ⟨sh, hsh, hinput⟩ := (Option.any_eq_true _ _).mp hdraft.type
  rw [h.shape_kept hb (fun hbuiltin => ?_) hsh]
  · exact hinput
  · rw [h.types]
    exact mem_withBuiltins_argument (h.settled_distinct) hd hv hbuiltin

end Makes

end Build

namespace Federation
open Build

section Built
variable {doc : Document Unit} {s : Schema}

theorem defined_directive (h : Schema.build doc = .ok s) {d : DirectiveType} (hd : d ∈ serviceDirectives s) :
    ∃ e ∈ (parts doc).directives, d = directiveType e := by
  obtain ⟨ts, hmakes⟩ := makes_of_build h
  have hplain := (List.mem_filter.mp (List.mem_of_mem_filter hd)).2
  rw [Bool.not_eq_true'] at hplain
  refine (hmakes.directives d
    (List.mem_of_mem_filter (List.mem_of_mem_filter hd))).resolve_left fun hspecified => ?_
  rw [hspecified] at hplain
  cases hplain

variable (hdoc : ∀ d ∈ doc, d.IsLegible)
include hdoc

theorem writable_type {p : Option String × TypeDefinition Unit} (hp : p ∈ (parts doc).types) :
    p.2.IsWritable := by
  obtain ⟨d, hd, hsome⟩ := List.mem_filterMap.mp hp
  cases d with
  | type description e => cases hsome; exact hdoc _ hd
  | _ => cases hsome

theorem writable_extension {e : TypeDefinition Unit} (he : e ∈ (parts doc).extensions) : e.IsWritable :=
  hdoc _ (mem_extensions.mp he)

theorem writable_directive {e : DirectiveDefinition Unit} (he : e ∈ (parts doc).directives) :
    e.IsWritable := by
  obtain ⟨d, hd, hsome⟩ := List.mem_filterMap.mp he
  cases d with
  | directive e => cases hsome; exact hdoc _ hd
  | _ => cases hsome

theorem legible_schema {p : Option String × SchemaDefinition Unit} (hp : p ∈ (parts doc).schemas) :
    p.2.operations ≠ [] ∧ ∀ o ∈ p.2.operations, Token.isName o.2 = true := by
  obtain ⟨d, hd, hsome⟩ := List.mem_filterMap.mp hp
  cases d with
  | schema description e => cases hsome; exact hdoc _ hd
  | _ => cases hsome

theorem legible_root {o : OperationKind × String} (ho : o ∈ namedRoots doc) : Token.isName o.2 = true := by
  rcases List.mem_append.mp ho with ho | ho
  · cases hlast : (parts doc).schemas.getLast? with
    | none => rw [hlast] at ho; cases ho
    | some p =>
      rw [hlast] at ho
      exact (legible_schema hdoc (List.mem_of_getLast? hlast)).2 o ho
  · obtain ⟨e, he, ho⟩ := List.mem_flatMap.mp ho
    obtain ⟨d, hd, hsome⟩ := List.mem_filterMap.mp he
    cases d with
    | extendSchema e => cases hsome; exact hdoc _ hd o ho
    | _ => cases hsome

variable (h : Schema.build doc = .ok s)
include h

theorem defined_legible {t : NamedType} (ht : t ∈ serviceTypes s) : t.IsLegible ∧ IsWritten t.shape := by
  obtain ⟨hmem, hdefined, -⟩ := mem_serviceTypes.mp ht
  obtain ⟨p, hp, -, -, rfl⟩ := defined_of_build h hmem hdefined
  have hwritable := writable_type hdoc hp
  refine ⟨legible_settle (legible_extended ⟨hwritable.name, legible_shape hwritable, hwritable.directives⟩
    fun e he => writable_extension hdoc (List.mem_of_mem_filter he)), fun v hv => ?_⟩
  exact written_extended (written_shape p.2) v (inputs_settle _ hv)

theorem described_rooted (hdescribed : s.description.isSome = true) : rootsOf s ≠ [] := by
  obtain ⟨ts, hmakes⟩ := makes_of_build h
  rw [hmakes.description] at hdescribed
  cases hlast : (parts doc).schemas.getLast? with
  | none => rw [hlast] at hdescribed; cases hdescribed
  | some p =>
    have hmem := List.mem_of_getLast? hlast
    obtain ⟨o, ho⟩ := List.exists_mem_of_ne_nil _ (legible_schema hdoc hmem).1
    have hnamed : o ∈ namedRoots doc := by
      rw [namedRoots, hlast]
      exact List.mem_append_left _ ho
    have hroot : (s.root o.1).isSome = true := by
      have hfound : ((namedRoots doc).reverse.find? (·.1 == o.1)).isSome = true :=
        List.find?_isSome.mpr ⟨o, List.mem_reverse.mpr hnamed, beq_self_eq_true _⟩
      obtain ⟨o', ho'⟩ := Option.isSome_iff_exists.mp hfound
      rw [hmakes.defined (List.ne_nil_of_mem hmem), rootOf, ho']
      rfl
    obtain ⟨n, hn⟩ := Option.isSome_iff_exists.mp hroot
    exact List.ne_nil_of_mem ((mem_rootsOf s).mpr hn)

theorem readable_of_build : IsReadable s := by
  obtain ⟨ts, hmakes⟩ := makes_of_build h
  have hb := built h
  have hdirective : ∀ d ∈ serviceDirectives s, ∃ e ∈ (parts doc).directives, d = directiveType e
      ∧ d ∈ s.directives := by
    intro d hd
    obtain ⟨e, he, heq⟩ := defined_directive h hd
    exact ⟨e, he, heq, List.mem_of_mem_filter (List.mem_of_mem_filter hd)⟩
  have htype : ∀ t ∈ serviceTypes s, t ∈ ts.map settle := by
    intro t ht
    obtain ⟨hmem, hdefined, -⟩ := mem_serviceTypes.mp ht
    rw [hmakes.types] at hmem
    -- A built-in type is not one of the service.
    refine ((withBuiltins_placed hmakes.settled_distinct _).others t hmem).resolve_right fun hbuiltin => ?_
    rw [isDefined_builtin hbuiltin.2] at hdefined
    cases hdefined
  have hwritten : ∀ v ∈ shownInputs s, ∀ d, v.default? ≠ some (.value d) := by
    intro v hv
    rcases List.mem_append.mp hv with hv | hv
    · obtain ⟨d, hd, hv⟩ := List.mem_flatMap.mp hv
      obtain ⟨e, -, rfl, -⟩ := hdirective d hd
      obtain ⟨w, -, rfl⟩ := List.mem_map.mp (mem_of_mem_lastByName hv)
      exact inputValue_written w
    · obtain ⟨t, ht, hv⟩ := List.mem_flatMap.mp hv
      exact (defined_legible hdoc h ht).2 v hv
  refine ⟨hb.names, hb.builtin, hmakes.roots, fun t ht => ?_, fun t ht => hmakes.refers hb (htype t ht),
    fun d hd => ?_, fun v hv d hd => absurd hd (hwritten v hv d), described_rooted hdoc h,
    ⟨fun t ht => (defined_legible hdoc h ht).1, fun d hd => ?_, fun o ho => ?_⟩⟩
  · obtain ⟨u, -, rfl⟩ := List.mem_map.mp (htype t ht)
    exact distinct_settle u
  · obtain ⟨e, he, rfl, hmem⟩ := hdirective d hd
    exact ⟨lastByName_nodup, fun v hv => hmakes.fits hb he hmem hv⟩
  · obtain ⟨e, he, rfl, -⟩ := hdirective d hd
    have hwritable := writable_directive hdoc he
    refine ⟨hwritable.name, fun v hv => ?_, hwritable.some, hwritable.locations⟩
    obtain ⟨w, hw, rfl⟩ := List.mem_map.mp (mem_of_mem_lastByName hv)
    exact legible_inputValue (hwritable.arguments w hw)
  · rcases hmakes.named o.1 o.2 ((mem_rootsOf s).mp ho) with hnamed | hdefault
    · exact legible_root hdoc hnamed
    · rw [hdefault]
      cases o.1 <;> decide

end Built

/-- Every schema that was read has a readable SDL. -/
theorem readable_of_read {text : String} {assumeValid : Bool} {s : Schema}
    (h : Schema.read text assumeValid = .ok s) : IsReadable s := by
  obtain ⟨doc, hparse, h⟩ := Except.of_bind_ok h
  obtain ⟨faults, -, h⟩ := Except.of_bind_ok h
  split at h
  · have hdoc := Document.legible_of_parse (Except.of_mapError_ok hparse)
    exact readable_of_build hdoc (Except.of_mapError_ok h)
  · cases h

end Federation
end Subgraph
