import Subgraph.Proofs.Classifying
import Subgraph.Proofs.GrownSdl
import Subgraph.Proofs.Transforming

/-!
# Transforming a service again

A service may be transformed any number of times. What an earlier transformation has added is
replaced or stays out of sight, and every configuration that the first schema accepts is accepted
by all later ones, so that the SDL that is served at the end is the one of the last configuration
alone. The invariant of the chain is that the schema can be transformed, with the same SDL for
every configuration as at the start.
-/

namespace Subgraph

namespace Federation
open Config

section Grown
variable {s : Schema} {es : List String} {config : Config}

theorem field?_isSome {t : NamedType} {n : String} :
    (t.field? n).isSome = true ↔ n ∈ t.shape.fields.map (·.name) := by
  rw [NamedType.field?, Option.isSome_iff_ne_none, ne_eq, find?_eq_none_iff_not_mem, not_not]

theorem Accepts.sameSettings {s' : Schema} (h : Accepts s config)
    (h' : Accepts s' config) :
    SameSettings ⟨configuredTypes s config⟩ ⟨configuredTypes s' config⟩ := fun n => by
  rw [h.settings, h'.settings]

theorem grownType_field? (hw : s.WellFormed) (hg : Growable s) {t : NamedType} (ht : t ∈ s.types)
    (hplain : isTypeName t.name = false) {n : String} (hn : (t.field? n).isSome = true) :
    ((grownType s es t).field? n).isSome = true := by
  rw [field?_isSome] at hn ⊢
  have hevaluated : (t.evaluated s).shape.fields.map (·.name) = t.shape.fields.map (·.name) := by
    rw [NamedType.evaluated_shape, TypeShape.fields_mapInputs, List.map_map]
    rfl
  rw [← hevaluated] at hn
  rw [grownType_plain hg ht hplain]
  split
  · next hq =>
    obtain ⟨-, is, fs, hs⟩ := hg.root_defined hw ht hq
    have hshape : (t.evaluated s).shape = .object is (fs.map (Field.evaluated s)) := by
      rw [NamedType.evaluated_shape, hs]
      rfl
    rw [hshape] at hn
    simp only [hshape, grownShape, TypeShape.fields] at hn ⊢
    rw [names_lastByName_append (evaluatedFields_nodup hw ht hs) (protocolFieldTypes_distinct es).1]
    exact List.mem_append_left _ hn
  · exact hn

theorem grownType_kind (hg : Growable s) {t : NamedType} (ht : t ∈ s.types)
    (hplain : isTypeName t.name = false) : t.shape.SameKind (grownType s es t).shape := by
  have hevaluated : t.shape.SameKind (t.evaluated s).shape := .of_mapInputs _ _
  rw [grownType_plain hg ht hplain]
  split
  · exact hevaluated.trans (grownShape_kind _)
  · exact hevaluated

theorem type?_grown_plain (hg : Growable s) {t : NamedType} {n : String} (ht : s.type? n = some t)
    (hplain : isTypeName n = false) : (grown s es).type? n = some (grownType s es t) := by
  obtain ⟨hmem, rfl⟩ := Schema.mem_of_type? ht
  rw [type?_grown, hg.protocolType?_eq_none hmem hplain, ht, Option.map_some]

theorem Accepts.grown (h : Accepts s config) (es : List String) (hw : s.WellFormed)
    (hg : Growable s) (hplain : ∀ e ∈ config, isTypeName e.1 = false) :
    Accepts (grown s es) config := by
  intro e he
  obtain ⟨t, ht, hsuits⟩ := h e he
  obtain ⟨hmem, hname⟩ := Schema.mem_of_type? ht
  have hp : isTypeName t.name = false := by rw [hname]; exact hplain e he
  have hkind : t.shape.SameKind (grownType s es t).shape := grownType_kind hg hmem hp
  refine ⟨grownType s es t, type?_grown_plain hg ht (hplain e he), ?_⟩
  exact {
    reference := fun hr => hkind.object.trans (hsuits.reference hr)
    keys := fun hk => hkind.object.trans (hsuits.keys hk)
    extend := fun he => by rw [hkind.object, hkind.interface]; exact hsuits.extend he
    known := fun n hn => grownType_field? hw hg hmem hp (hsuits.known n hn) }

theorem shape?_grown_protocol {u : NamedType} (hu : u ∈ protocolTypes s es) {shape : TypeShape}
    (hshape : (grown s es).shape? u.name = some shape) : shape = u.shape := by
  rw [Schema.shape?, type?_grown_protocol s es hu] at hshape
  exact (Option.some.inj hshape).symm

theorem PlainKinds.grown (hk : PlainKinds s) : PlainKinds (grown s es) where
  kinds := by
    intro es' u hu shape hshape
    rcases mem_protocolTypes (Federation.grown s es) es' hu with
      rfl | rfl | ⟨rfl, hes'⟩ | ⟨rfl, hnone⟩ | ⟨rfl, hquery⟩
    · rw [shape?_grown_protocol (anyType_mem s es) hshape]
      exact .refl _
    · rw [shape?_grown_protocol (serviceObject_mem s es) hshape]
      exact .refl _
    · by_cases hes : es = []
      · -- An entity union that is left from before is of the right kind.
        have hp : (protocolTypes s es).find? (·.name == entityUnion) = none := by
          rw [hes]
          refine find?_eq_none_iff_not_mem.mpr ?_
          rw [protocolTypes_names]
          cases s.query.isNone <;> cases (s.type? fieldSetScalar).isNone <;> decide
        have hname : (entityType es').name = entityUnion := rfl
        rw [hname, Schema.shape?, type?_grown, hp] at hshape
        cases hs : s.type? entityUnion with
        | none => rw [hs] at hshape; cases hshape
        | some t =>
          have hold : s.shape? entityUnion = some t.shape := by rw [Schema.shape?, hs]; rfl
          obtain ⟨shape', hshape', hsame⟩ :=
            @grown_kind s es hk.toProtocolKinds entityUnion t.shape hold
          rw [Schema.shape?, type?_grown, hp] at hshape'
          obtain rfl := Option.some.inj (hshape.symm.trans hshape')
          exact hsame.symm.trans (hk.kinds es' _ (entityType_mem s es' hes') t.shape hold)
      · rw [shape?_grown_protocol (u := entityType es) (entityType_mem s es hes) hshape]
        exact ⟨rfl, rfl, rfl, rfl, rfl⟩
    · have hname : fieldSetType.name = fieldSetScalar := rfl
      rw [Schema.shape?, hname, hnone] at hshape
      cases hshape
    · cases hquery
  fieldSet := by
    intro shape hshape
    cases hs : s.type? fieldSetScalar with
    | none =>
      rw [shape?_grown_protocol (u := fieldSetType) (by simp [protocolTypes, hs]) hshape]
      rfl
    | some t =>
      have hold : s.shape? fieldSetScalar = some t.shape := by rw [Schema.shape?, hs]; rfl
      obtain ⟨shape', hshape', hsame⟩ :=
        @grown_kind s es hk.toProtocolKinds fieldSetScalar t.shape hold
      obtain rfl := Option.some.inj (hshape.symm.trans hshape')
      rw [hsame.input]
      exact hk.fieldSet t.shape hold
  any := fun _ hshape => shape?_grown_protocol (anyType_mem s es) hshape

/-- What the transformation keeps of a schema, so that it can be done again. -/
structure Transformable (s : Schema) : Prop where
  wellFormed : s.WellFormed
  kinds : PlainKinds s
  growable : Growable s
  fields : ∀ t ∈ s.types, s.query = some t.name → t.shape.fields ≠ []
  specified : Build.duplicate? s.directives = none
  directives : (s.directives.map (·.name)).Nodup
  description : ∀ d, s.description = some d → Text.hasIndentedLine d = false
  writable : unwritable? s = none

theorem grown_directives (hdirectives : (s.directives.map (·.name)).Nodup) :
    (grown s es).directives = s.evaluated.directives ++ protocolDirectives s := by
  have hnames : (s.evaluated.directives.map (·.name)).Nodup := by
    rw [Schema.evaluated, List.map_map]
    exact hdirectives
  rw [grown, lastByName_of_nodup hnames]

theorem grown_directives_nodup (hdirectives : (s.directives.map (·.name)).Nodup) :
    ((grown s es).directives.map (·.name)).Nodup := by
  have hnames : s.evaluated.directives.map (·.name) = s.directives.map (·.name) := by
    rw [Schema.evaluated, List.map_map]
    rfl
  have hprotocol : ((protocolDirectives s).map (·.name)).Nodup := by
    unfold protocolDirectives
    cases (s.directive? keyDirective).isNone <;> cases (s.directive? extendsDirective).isNone <;>
      decide
  have hnew : ∀ d ∈ protocolDirectives s, d.name ∉ s.directives.map (·.name) := by
    intro d hd
    rcases List.mem_append.mp hd with hd | hd
    · split at hd
      · next hnone =>
        rw [List.mem_singleton.mp hd]
        exact find?_eq_none_iff_not_mem.mp (Option.isNone_iff_eq_none.mp hnone)
      · cases hd
    · split at hd
      · next hnone =>
        rw [List.mem_singleton.mp hd]
        exact find?_eq_none_iff_not_mem.mp (Option.isNone_iff_eq_none.mp hnone)
      · cases hd
  rw [grown_directives hdirectives, List.map_append, hnames]
  refine List.nodup_append.mpr ⟨hdirectives, hprotocol, fun n hn m hm heq => ?_⟩
  obtain ⟨d, hd, rfl⟩ := List.mem_map.mp hm
  exact hnew d hd (heq ▸ hn)

theorem duplicate?_grown (hdirectives : (s.directives.map (·.name)).Nodup) :
    Build.duplicate? (grown s es).directives = Build.duplicate? s.directives := by
  have hprotocol : (protocolDirectives s).filter (·.isSpecified) = [] := by
    unfold protocolDirectives
    cases (s.directive? keyDirective).isNone <;> cases (s.directive? extendsDirective).isNone <;> rfl
  have happend : Build.duplicate? (s.evaluated.directives ++ protocolDirectives s)
      = Build.duplicate? s.evaluated.directives := by
    rw [Build.duplicate?, List.filter_append, hprotocol, List.append_nil]
    rfl
  rw [grown_directives hdirectives, happend, duplicate?_evaluated]

theorem grown_root (hw : s.WellFormed) (hg : Growable s)
    (hfields : ∀ t ∈ s.types, s.query = some t.name → t.shape.fields ≠ []) :
    ∃ t ∈ (grown s es).types, (grown s es).query = some t.name ∧ t.shape.isObject = true
      ∧ t.isDefined = true ∧ isTypeName t.name = false ∧ t.shape.fields ≠ [] := by
  have hgrowable := hg
  cases hg with
  | rooted t ht hroot hobject hdefined hplain =>
    have hname : (grownType s es t).name = t.name := grownType_name s es t
    have hmem : grownType s es t ∈ (grown s es).types :=
      List.mem_append_left _ (List.mem_map_of_mem ht)
    have hkind : t.shape.SameKind (grownType s es t).shape := grownType_kind hgrowable ht hplain
    refine ⟨grownType s es t, hmem, ?_, hkind.object.trans hobject, ?_, by rw [hname]; exact hplain,
      ?_⟩
    · rw [grown_query, rootName, hroot, hname, Option.getD_some]
    · rw [NamedType.isDefined, hname]
      exact hdefined
    · obtain ⟨-, is, fs, hs⟩ := hgrowable.root_defined hw ht hroot
      have hsome := hfields t ht hroot
      rw [hs] at hsome
      rw [grownType_plain hgrowable ht hplain, if_pos hroot, NamedType.evaluated_shape, hs]
      exact lastByName_append_ne_nil (evaluatedFields_nodup hw ht hs)
        (protocolFieldTypes_distinct es).1 (by simpa [TypeShape.fields] using hsome)
  | rootless hquery hfree =>
    have hprotocol : queryType es ∈ protocolTypes s es := by simp [protocolTypes, hquery]
    obtain ⟨hmem, -⟩ := Schema.mem_of_type? (type?_grown_protocol s es hprotocol)
    refine ⟨queryType es, hmem, ?_, rfl, rfl, rfl, ?_⟩
    · rw [grown_query, rootName, hquery]
      rfl
    · rw [queryType, TypeShape.fields, protocolFieldTypes_eq]
      exact List.cons_ne_nil _ _

theorem Transformable.grown (h : Transformable s) (hes : ∀ n ∈ es, s.isObject n = true) :
    Transformable (grown s es) where
  wellFormed := grown_wellFormed h.wellFormed h.kinds.toProtocolKinds hes
  kinds := h.kinds.grown
  growable := by
    obtain ⟨t, ht, hroot, hobject, hdefined, hplain, -⟩ := grown_root h.wellFormed h.growable h.fields
    exact .rooted t ht hroot hobject hdefined hplain
  fields := by
    intro u hu hq
    obtain ⟨t, ht, hroot, -, -, -, hfields⟩ := grown_root h.wellFormed h.growable h.fields
    have hnames := grown_names_nodup s es h.wellFormed.names
    have hname : t.name = u.name := Option.some.inj (hroot.symm.trans hq)
    have htype := Schema.type?_of_mem hnames ht
    rw [hname, Schema.type?_of_mem hnames hu] at htype
    cases htype
    exact hfields
  specified := (duplicate?_grown h.directives).trans h.specified
  directives := grown_directives_nodup h.directives
  description := h.description
  writable := (unwritable?_grown h.wellFormed h.kinds h.growable h.directives).trans h.writable

end Grown

/-- The SDL that a service shows at the protocol field of its query root. -/
def servedSdl? (x : Service) : Option String :=
  x.schema.query.bind fun query =>
    match x.resolver? query serviceField with
    | some (.sdl text) => some text
    | _ => none

section Steps
variable {x : Service} {config : Config}

theorem augment_served {c : Classification} {sdl : String} {s : Schema} (hr : Rooted x.schema)
    (h : x.schema.extend (additions x.schema c.entityNames) = .ok s) :
    ∃ y, augment x c sdl = .ok y ∧ y.schema = s ∧ servedSdl? y = some sdl := by
  obtain ⟨t, hquery, htype, -, hobject, hfield, -⟩ := hr.extend_root h
  have hfields : t.shape.hasFields = true := by
    cases hs : t.shape <;> rw [hs] at hobject <;> first | rfl | cases hobject
  have hservice : requireServiceField s (s.query.getD defaultQuery) = .ok () := by
    simp [requireServiceField, hquery, htype, hfields, hfield]
  have hgoes : ∀ y : Service, (requireServiceField s (s.query.getD defaultQuery) >>= fun _ => .ok y)
      = .ok y := by
    intro y
    rw [hservice]
    rfl
  refine ⟨_, by rw [augment, h]; exact hgoes _, rfl, ?_⟩
  simp only [servedSdl?, hquery, Option.bind_some, Option.getD_some, Service.resolver?,
    protocolResolvers, List.cons_append, List.lookup_cons, beq_self_eq_true]

/-- A service whose SDL can be written and whose schema can be extended takes a configuration. -/
theorem transformBy_yields_of_extend {s : Schema} (hr : Rooted x.schema)
    (hwritable : unwritable? x.schema = none)
    (haccepts : Accepts x.schema config) (hextend : x.schema.extend (additions x.schema
      (⟨configuredTypes x.schema config⟩ : Classification).entityNames) = .ok s) :
    ∃ y, Logged.Yields (transformBy x config) y ∧ y.schema = s
      ∧ servedSdl? y = some (printSdl x.schema ⟨configuredTypes x.schema config⟩) := by
  have hclassify := classify_ok_iff.mpr ⟨haccepts, rfl⟩
  obtain ⟨y, haugment, hschema, hserved⟩ := augment_served hr hextend
  exact ⟨y, Transforms.yields ⟨hclassify, printSdl?_ok_iff.mpr ⟨hwritable, rfl⟩, haugment⟩, hschema,
    hserved⟩

theorem transformBy_yields (hw : x.schema.WellFormed) (hk : ProtocolKinds x.schema)
    (hg : Growable x.schema) (hwritable : unwritable? x.schema = none)
    (hspecified : Build.duplicate? x.schema.directives = none) (haccepts : Accepts x.schema config) :
    ∃ y, Logged.Yields (transformBy x config) y
      ∧ y.schema = grown x.schema (⟨configuredTypes x.schema config⟩ : Classification).entityNames
      ∧ servedSdl? y = some (printSdl x.schema ⟨configuredTypes x.schema config⟩) := by
  have hobjects : ∀ n ∈ (⟨configuredTypes x.schema config⟩ : Classification).entityNames,
      x.schema.isObject n = true := fun _ hn => entityNames_objects hn
  exact transformBy_yields_of_extend (hg.isRooted hw) hwritable haccepts
    (extend_additions hw hk hg hobjects hspecified)

/-- What holds all along a chain of transformations: the schema can be transformed, and for every
configuration the SDL is the one that the first schema has for it. -/
structure Continues (s s' : Schema) : Prop where
  transformable : Transformable s'
  accepts : ∀ config, Accepts s config → (∀ e ∈ config, isTypeName e.1 = false) →
    Accepts s' config ∧ printSdl s' ⟨configuredTypes s' config⟩ = printSdl s ⟨configuredTypes s config⟩

theorem Continues.refl {s : Schema} (h : Transformable s) : Continues s s :=
  ⟨h, fun _ haccepts _ => ⟨haccepts, rfl⟩⟩

theorem printSdl_grown {s : Schema} (es : List String) (h : Transformable s)
    (haccepts : Accepts s config) (haccepts' : Accepts (grown s es) config) :
    printSdl (grown s es) ⟨configuredTypes (grown s es) config⟩
      = printSdl s ⟨configuredTypes s config⟩ := by
  have hsame := printSdl?_grown es h.wellFormed h.kinds h.growable h.fields h.directives
    h.description (haccepts.sameSettings haccepts') fun hquery => by
      cases h.growable with
      | rooted t _ hroot _ _ _ => rw [hquery] at hroot; cases hroot
      | rootless _ hfree => exact haccepts.get?_eq_none hfree
  have hwritable : unwritable? (grown s es) = none :=
    (unwritable?_grown h.wellFormed h.kinds h.growable h.directives).trans h.writable
  rw [printSdl?, printSdl?, hwritable, h.writable] at hsame
  exact Except.ok.inj hsame

/-- One more transformation keeps the invariant. -/
theorem Continues.step {s : Schema} (h : Continues s x.schema) (haccepts : Accepts s config)
    (hplain : ∀ e ∈ config, isTypeName e.1 = false) :
    ∃ y, Logged.Yields (transformBy x config) y ∧ Continues s y.schema
      ∧ servedSdl? y = some (printSdl s ⟨configuredTypes s config⟩) := by
  obtain ⟨hnow, hsdl⟩ := h.accepts config haccepts hplain
  obtain ⟨hw, hk, hg, -, hspecified, -, -, hwritable⟩ := h.transformable
  obtain ⟨y, hyields, hschema, hserved⟩ :=
    transformBy_yields hw hk.toProtocolKinds hg hwritable hspecified hnow
  refine ⟨y, hyields, ?_, by rw [hserved, hsdl]⟩
  rw [hschema]
  refine ⟨h.transformable.grown fun _ hn => entityNames_objects hn, fun config' hconfig hplain' => ?_⟩
  obtain ⟨hbefore, hprinted⟩ := h.accepts config' hconfig hplain'
  have hafter := hbefore.grown (⟨configuredTypes x.schema config⟩ : Classification).entityNames
    h.transformable.wellFormed h.transformable.growable hplain'
  exact ⟨hafter, (printSdl_grown _ h.transformable hbefore hafter).trans hprinted⟩

end Steps

/-- A configuration that can be read, that fits a schema and that names no type of the protocol. -/
def AcceptsRaw (registry : Registry) (s : Schema) (raw : Raw) : Prop :=
  ∃ config, parse registry raw = .ok config ∧ (∃ c, classify s config = .ok c)
    ∧ ∀ n ∈ Entries.names config, isTypeName n = false

section Chain
variable {registry : Registry} {s : Schema} {x : Service}

theorem Continues.transform (h : Continues s x.schema) {raw : Raw} {config : Config}
    (hparse : parse registry raw = .ok config) (hraw : AcceptsRaw registry s raw) :
    ∃ y, Logged.Yields (transform registry x raw) y ∧ Continues s y.schema
      ∧ servedSdl? y = some (printSdl s ⟨configuredTypes s config⟩) := by
  obtain ⟨config', hparse', ⟨c, hclassify⟩, hnames⟩ := hraw
  obtain rfl := Except.ok.inj (hparse.symm.trans hparse')
  have hplain : ∀ e ∈ config, isTypeName e.1 = false := fun e he =>
    hnames e.1 (List.mem_map_of_mem he)
  obtain ⟨y, hyields, hcontinues, hserved⟩ := h.step (classify_ok_iff.mp hclassify).1 hplain
  exact ⟨y, .bind (.ofExcept hparse) (.bind (.say _) hyields), hcontinues, hserved⟩

/-- A chain of transformations succeeds, and what is served at its end is the SDL that the first
schema has for the last configuration. -/
theorem Continues.chain (raws : List Raw) {raw : Raw} {config : Config} (h : Continues s x.schema)
    (hraws : ∀ r ∈ raws ++ [raw], AcceptsRaw registry s r) (hparse : parse registry raw = .ok config) :
    ∃ y, Logged.Yields ((raws ++ [raw]).foldlM (Federation.transform registry) x) y
      ∧ servedSdl? y = some (printSdl s ⟨configuredTypes s config⟩) := by
  -- By induction on the configurations before the last: each leaves a service that goes on.
  induction raws generalizing x with
  | nil =>
    obtain ⟨y, hyields, -, hserved⟩ := h.transform hparse (hraws raw (List.mem_singleton_self raw))
    exact ⟨y, .bind hyields (.pure y), hserved⟩
  | cons r raws ih =>
    have hr : AcceptsRaw registry s r := hraws r List.mem_cons_self
    obtain ⟨config', hparse', -⟩ := id hr
    obtain ⟨x', hyields, hcontinues, -⟩ := h.transform hparse' hr
    obtain ⟨y, hrest, hserved⟩ := ih hcontinues fun r' hr' => hraws r' (List.mem_cons_of_mem r hr')
    exact ⟨y, .bind hyields hrest, hserved⟩

end Chain

/-- A schema that has not been transformed yet, with a query root of its own or with nothing in the
way of one. -/
structure Untransformed (s : Schema) : Prop where
  wellFormed : s.WellFormed
  undeclared : ∀ n ∈ typeNames, (s.type? n).isNone = true
  root : (∃ t ∈ s.types, s.query = some t.name ∧ t.shape.isObject = true ∧ t.isDefined = true
      ∧ t.shape.fields ≠ [])
    ∨ (s.query = none ∧ (s.type? defaultQuery).isNone = true)
  description : ∀ d ∈ s.description.toList, Text.hasIndentedLine d = false

/-- The defaults of a schema can be written, no two of its directives have one name, and no argument
of a specified directive has a type that the schema defines. -/
structure Extensible (s : Schema) : Prop where
  writable : (unwritable? s).isNone = true
  directives : (s.directives.map (·.name)).Nodup
  specified : (Build.duplicate? s.directives).isNone = true

theorem isTypeName_eq_false {s : Schema} (hnames : (s.types.map (·.name)).Nodup)
    (h : ∀ n ∈ typeNames, (s.type? n).isNone = true) {t : NamedType} (ht : t ∈ s.types) :
    isTypeName t.name = false := by
  cases hname : isTypeName t.name with
  | false => rfl
  | true =>
    have hnone := h t.name (List.contains_iff_mem.mp hname)
    rw [Schema.type?_of_mem hnames ht] at hnone
    cases hnone

/-- A schema without types of the protocol, and with a query root or with nothing in the way of one,
takes types of all kinds. -/
theorem plainKinds_of_undeclared {s : Schema} (h : ∀ n ∈ typeNames, (s.type? n).isNone = true)
    (hroot : s.query.isNone = false ∨ (s.type? defaultQuery).isNone = true) : PlainKinds s := by
  have hshape : ∀ n, isTypeName n = true → s.shape? n = none := fun n hn => by
    rw [Schema.shape?, Option.isNone_iff_eq_none.mp (h n (List.contains_iff_mem.mp hn)),
      Option.map_none]
  refine ⟨⟨fun es u hu shape hs => ?_, fun shape hs => ?_⟩, fun shape hs => ?_⟩
  · rcases mem_protocolTypes s es hu with rfl | rfl | ⟨rfl, -⟩ | ⟨rfl, -⟩ | ⟨rfl, hquery⟩
    · cases (hshape anyScalar rfl).symm.trans hs
    · cases (hshape serviceType rfl).symm.trans hs
    · cases (hshape entityUnion rfl).symm.trans hs
    · cases (hshape fieldSetScalar rfl).symm.trans hs
    · rcases hroot with hroot | hfree
      · rw [hquery] at hroot
        cases hroot
      · have hnone : s.shape? defaultQuery = none := by
          rw [Schema.shape?, Option.isNone_iff_eq_none.mp hfree, Option.map_none]
        cases hnone.symm.trans hs
  · cases (hshape fieldSetScalar rfl).symm.trans hs
  · cases (hshape anyScalar rfl).symm.trans hs

theorem Untransformed.kinds {s : Schema} (h : Untransformed s) : PlainKinds s := by
  refine plainKinds_of_undeclared h.undeclared ?_
  rcases h.root with ⟨t, -, hroot, -⟩ | ⟨-, hfree⟩
  · rw [hroot]
    exact .inl rfl
  · exact .inr hfree

theorem Untransformed.growable {s : Schema} (h : Untransformed s) : Growable s := by
  rcases h.root with ⟨t, ht, hroot, hobject, hdefined, -⟩ | ⟨hquery, hfree⟩
  · exact .rooted t ht hroot hobject hdefined
      (isTypeName_eq_false h.wellFormed.names h.undeclared ht)
  · exact .rootless hquery (Option.isNone_iff_eq_none.mp hfree)

theorem Untransformed.transformable {s : Schema} (h : Untransformed s) (h' : Extensible s) :
    Transformable s where
  wellFormed := h.wellFormed
  kinds := h.kinds
  growable := h.growable
  fields := by
    intro u hu hq
    rcases h.root with ⟨t, ht, hroot, -, -, hfields⟩ | ⟨hquery, -⟩
    · have hname : t.name = u.name := Option.some.inj (hroot.symm.trans hq)
      have htype := Schema.type?_of_mem h.wellFormed.names ht
      rw [hname, Schema.type?_of_mem h.wellFormed.names hu] at htype
      cases htype
      exact hfields
    · rw [hquery] at hq
      cases hq
  specified := Option.isNone_iff_eq_none.mp h'.specified
  directives := h'.directives
  description := fun d hd => h.description d (Option.mem_toList.mpr hd)
  writable := Option.isNone_iff_eq_none.mp h'.writable

/-- Any number of transformations succeeds, and what is served after them is the SDL that the last
configuration alone gives. -/
def ServesLastSdl (registry : Registry) (x : Service) : Prop :=
  ∀ raws raw, (∀ r ∈ raws ++ [raw], AcceptsRaw registry x.schema r) →
    ∃ y z sdl, Logged.Yields ((raws ++ [raw]).foldlM (transform registry) x) y
      ∧ Logged.Yields (transform registry x raw) z
      ∧ servedSdl? y = some sdl ∧ servedSdl? z = some sdl

/-- The SDL that is served does not depend on the history of a service. -/
theorem servesLastSdl (registry : Registry) (x : Service) (h : Untransformed x.schema)
    (h' : Extensible x.schema) : ServesLastSdl registry x := by
  intro raws raw hraws
  have hlast : AcceptsRaw registry x.schema raw :=
    hraws raw (List.mem_append_right raws (List.mem_singleton_self raw))
  have hstart : Continues x.schema x.schema := .refl (h.transformable h')
  obtain ⟨config, hparse, -⟩ := id hlast
  obtain ⟨y, hchain, hserved⟩ := hstart.chain raws hraws hparse
  obtain ⟨z, hyields, -, hserved'⟩ := hstart.transform hparse hlast
  exact ⟨y, z, _, hchain, hyields, hserved, hserved'⟩

section Shop

/-- A schema of types that are its own, with the built-in types and specified directives. -/
def schemaOf (own : List NamedType) (directives : List DirectiveType) : Schema where
  description := none
  types := own ++ Builtin.scalars ++ Builtin.introspection
  directives := directives ++ Builtin.directives.filter fun d =>
    !((directives.map (·.name)).contains d.name)
  query := some defaultQuery
  mutation := none
  subscription := none

def queryOf (fields : List Field) : NamedType := ⟨none, defaultQuery, .object [] fields, []⟩

theorem untransformed_of_query {own : List NamedType} {fields : List Field}
    {directives : List DirectiveType} (hw : (schemaOf (queryOf fields :: own) directives).WellFormed)
    (hundeclared : ∀ n ∈ typeNames,
      ((schemaOf (queryOf fields :: own) directives).type? n).isNone = true)
    (hfields : fields ≠ []) : Untransformed (schemaOf (queryOf fields :: own) directives) where
  wellFormed := hw
  undeclared := hundeclared
  root := .inl ⟨queryOf fields, List.mem_cons_self, rfl, rfl, rfl, hfields⟩
  description := fun _ hd => by cases hd

def shop : Schema :=
  schemaOf [queryOf [⟨none, "product", [], .named "Product", none, []⟩],
    ⟨none, "Product", .object [] [⟨none, "id", [], .nonNull (.named "ID"), none, []⟩], []⟩] []

def shopRegistry : Registry := ⟨"shop", [], []⟩

/-- A configuration that makes products entities. -/
def productKeys : Raw := .record [(.text "Product", .record [(.text "keyFields", .text "id")])]

theorem rooted_shop : Rooted shop where
  names := by decide +kernel
  root := by
    intro q hq
    cases hq
    decide +kernel

/-- A schema whose query root has a name of the protocol. -/
def serviceRoot : Schema :=
  { schemaOf [⟨none, serviceType, .object [] [⟨none, "product", [], .named "Product", none, []⟩], []⟩,
      ⟨none, "Product", .object [] [⟨none, "id", [], .nonNull (.named "ID"), none, []⟩], []⟩] [] with
    query := some serviceType }

/-- A schema without a query root, but with a type that can become one. -/
def lateRoot (fields : List Field) : Schema := { schemaOf [queryOf fields] [] with query := none }

theorem servesLastSdl_shop : Untransformed shop ∧ Extensible shop
    ∧ (∀ r ∈ [productKeys, .record []], AcceptsRaw shopRegistry shop r)
    ∧ ServesLastSdl shopRegistry (.ofSchema shop) := by
  have h : Untransformed shop :=
    untransformed_of_query (by decide +kernel) (by decide +kernel) (List.cons_ne_nil _ _)
  have h' : Extensible shop := ⟨by decide +kernel, by decide +kernel, by decide +kernel⟩
  refine ⟨h, h', ?_, servesLastSdl shopRegistry (.ofSchema shop) h h'⟩
  intro r hr
  rcases List.mem_cons.mp hr with rfl | hr
  · exact ⟨_, rfl, ⟨_, rfl⟩, by decide⟩
  · rw [List.mem_singleton.mp hr]
    exact ⟨[], rfl, ⟨⟨[]⟩, rfl⟩, by decide⟩

end Shop

section Limits

theorem acceptsRaw_empty (s : Schema) : AcceptsRaw shopRegistry s (.record []) :=
  ⟨[], rfl, ⟨⟨[]⟩, rfl⟩, fun _ hn => by cases hn⟩

/-- A default of a scalar that is written as an object. -/
def looseDefault : Schema :=
  schemaOf [queryOf [⟨none, "f", [⟨none, "x", .named "Json",
      some (.written (.object () [((), "a", .int () "1")])), none, []⟩], .named "Int", none, []⟩],
    ⟨none, "Json", .scalar none, []⟩] []

/-- Two directives of one name. -/
def repeatedDirective : Schema :=
  schemaOf [queryOf [⟨none, "a", [], .named "Int", none, []⟩]]
    [⟨none, "a", [], false, ["OBJECT"]⟩, ⟨none, "a", [], false, ["FIELD_DEFINITION"]⟩]

/-- A specified directive with an argument of a type of the schema. -/
def ownReason : Schema :=
  schemaOf [queryOf [⟨none, "a", [], .named "Int", none, []⟩], ⟨none, "Reason", .scalar none, []⟩]
    [⟨none, "deprecated", [⟨none, "reason", .named "Reason", none, none, []⟩], false,
      ["FIELD_DEFINITION"]⟩]

theorem not_servesLastSdl_of_failure {s : Schema}
    (h : (transform shopRegistry (.ofSchema s) (.record []) []).1.isOk = false) :
    ¬ ServesLastSdl shopRegistry (.ofSchema s) := by
  intro hserves
  obtain ⟨-, z, -, -, hz, -, -⟩ := hserves [] (.record [])
    fun r hr => List.mem_singleton.mp hr ▸ acceptsRaw_empty s
  rw [hz []] at h
  cases h

theorem not_servesLastSdl_repeatedDirective :
    ¬ ServesLastSdl shopRegistry (.ofSchema repeatedDirective) := by
  intro hserves
  obtain ⟨y, z, sdl, hy, hz, hserved, hserved'⟩ := hserves [.record []] (.record []) fun r hr => by
    have hr : r = .record [] := by simpa using hr
    exact hr ▸ acceptsRaw_empty repeatedDirective
  have hlast : (transform shopRegistry (.ofSchema repeatedDirective) (.record []) []).1.toOption.bind
      servedSdl? = some ("directive @a on OBJECT\n\ndirective @a on FIELD_DEFINITION\n\n"
        ++ "type Query \x7b\n  a: Int\n\x7d\n") := by
    decide +kernel
  have hchain : (([.record []] ++ [.record []] : List Raw).foldlM (transform shopRegistry)
      (.ofSchema repeatedDirective) []).1.toOption.bind servedSdl?
      = some "directive @a on FIELD_DEFINITION\n\ntype Query \x7b\n  a: Int\n\x7d\n" := by
    decide +kernel
  rw [hz []] at hlast
  rw [hy []] at hchain
  have hsame := (hserved.symm.trans hchain).symm.trans (hserved'.symm.trans hlast)
  revert hsame
  decide +kernel

/-- None of the conditions can be left out. -/
theorem servesLastSdl_needs_extensible :
    (Untransformed looseDefault ∧ ¬ ServesLastSdl shopRegistry (.ofSchema looseDefault))
    ∧ (Untransformed repeatedDirective
      ∧ ¬ ServesLastSdl shopRegistry (.ofSchema repeatedDirective))
    ∧ (Untransformed ownReason ∧ ¬ ServesLastSdl shopRegistry (.ofSchema ownReason)) := by
  refine ⟨⟨?_, not_servesLastSdl_of_failure (by decide +kernel)⟩,
    ⟨?_, not_servesLastSdl_repeatedDirective⟩,
    ⟨?_, not_servesLastSdl_of_failure (by decide +kernel)⟩⟩
  · exact untransformed_of_query (by decide +kernel) (by decide +kernel) (List.cons_ne_nil _ _)
  · exact untransformed_of_query (by decide +kernel) (by decide +kernel) (List.cons_ne_nil _ _)
  · exact untransformed_of_query (by decide +kernel) (by decide +kernel) (List.cons_ne_nil _ _)

end Limits

end Federation
end Subgraph
