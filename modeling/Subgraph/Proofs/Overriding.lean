import Subgraph.Proofs.EntitySurface
import Subgraph.Proofs.SdlQuery
import Subgraph.Proofs.Validity

/-!
# The protocol definitions override what a schema has

A schema may have types and root fields that go by the names of the protocol already. The protocol
takes their places: the root field for the service and the one for the entities stand where fields of
these names stood or come last, the service type and the union of the entities are the ones of the
protocol, and all other root fields stay where they are. So the query for the SDL is answered with
the SDL that was written.
-/

namespace Subgraph.Federation
open Config Build

/-- What a schema has under the names of the protocol is of the kinds of the protocol. The query
root, or the type that becomes one, is an object type of its own and not the service type. -/
structure Overridable (s : Schema) : Prop where
  wellFormed : s.WellFormed
  texts : s.shape? "String" = some (.scalar none)
  any : ∀ shape, s.shape? "_Any" = some shape → ∃ url, shape = .scalar url
  fieldSet : ∀ shape, s.shape? "_FieldSet" = some shape → ∃ url, shape = .scalar url
  service : ∀ shape, s.shape? "_Service" = some shape → ∃ is fs, shape = .object is fs
  entity : ∀ shape, s.shape? "_Entity" = some shape → ∃ ms, shape = .union ms
  root : ∀ t, s.type? (rootName s) = some t → t.shape.isObject = true ∧ t.isDefined = true
  ownRoot : rootName s ≠ "_Service"

/-- The root field for the service. -/
def serviceRootField : Field := ⟨none, "_service", [], .nonNull (.named "_Service"), none, []⟩

/-- The root field for the entities. -/
def entitiesRootField : Field :=
  ⟨none, "_entities",
    [⟨none, "representations", .nonNull (.list (.nonNull (.named "_Any"))), none, none, []⟩],
    .nonNull (.list (.named "_Entity")), none, []⟩

/-- The fields of the query root, or of the type that becomes one, if there is such a type. -/
def ownRootFields (s : Schema) : List Field := ((s.type? (rootName s)).map (·.shape.fields)).getD []

/-- What stands in the place of a root field: a field of the protocol, or the field itself with the
values of its defaults. -/
def overriding (s : Schema) (f : Field) : Field :=
  if f.name = "_service" then serviceRootField
  else if f.name = "_entities" then entitiesRootField
  else f.evaluated s

/-- The fields of the query root with those of the protocol, in place of fields of their names or at
the end. -/
def overriddenFields (s : Schema) : List Field :=
  (ownRootFields s).map (overriding s)
    ++ [serviceRootField, entitiesRootField].filter fun f =>
      !((ownRootFields s).map (·.name)).contains f.name

/-- A schema with the definitions of the protocol for some entities, made from another one. -/
structure Overrides (s : Schema) (entities : List String) (s' : Schema) : Prop where
  query : s'.query = some (rootName s)
  root : ∃ t is, s'.type? (rootName s) = some t ∧ t.shape = .object is (overriddenFields s)
  service : s'.type? "_Service"
    = some ⟨none, "_Service", .object [] [⟨none, "sdl", [], .named "String", none, []⟩], []⟩
  entities : s'.type? "_Entity" = some ⟨none, "_Entity", .union entities, []⟩

section Fields
variable {s : Schema} {es : List String}

theorem protocolFieldTypes_of_ne_nil (hes : es ≠ []) :
    protocolFieldTypes es = [serviceRootField, entitiesRootField] := by
  have hempty : es.isEmpty = false := by simpa using hes
  rw [protocolFieldTypes_eq, hempty]
  rfl

theorem overriding_eq (s : Schema) (f : Field) : overriding s f
    = ([serviceRootField, entitiesRootField].find? (·.name == (f.evaluated s).name)).getD
        (f.evaluated s) := by
  have hname : (f.evaluated s).name = f.name := rfl
  unfold overriding
  rw [hname]
  by_cases hservice : f.name = "_service"
  · rw [if_pos hservice, hservice]
    rfl
  · have hfirst : (serviceRootField.name == f.name) = false :=
      beq_eq_false_iff_ne.mpr (Ne.symm hservice)
    rw [if_neg hservice, List.find?_cons, hfirst]
    by_cases hentities : f.name = "_entities"
    · rw [if_pos hentities, hentities]
      rfl
    · have hsecond : (entitiesRootField.name == f.name) = false :=
        beq_eq_false_iff_ne.mpr (Ne.symm hentities)
      rw [if_neg hentities, List.find?_cons, hsecond]
      rfl

theorem lastByName_protocol {fs : List Field} (hes : es ≠ [])
    (hfs : ((fs.map (Field.evaluated s)).map (·.name)).Nodup) :
    lastByName (·.name) (fs.map (Field.evaluated s) ++ protocolFieldTypes es)
      = fs.map (overriding s) ++ [serviceRootField, entitiesRootField].filter fun f =>
          !((fs.map (·.name)).contains f.name) := by
  have hnames : (fs.map (Field.evaluated s)).map (·.name) = fs.map (·.name) := by
    rw [List.map_map]
    rfl
  rw [lastByName_append hfs (protocolFieldTypes_distinct es).1, hnames, List.map_map,
    protocolFieldTypes_of_ne_nil hes]
  congr 1
  exact List.map_congr_left fun f _ => (overriding_eq s f).symm

end Fields

section Grown
variable {s : Schema} {es : List String}

theorem Overridable.kinds (h : Overridable s)
    (hroot : s.query.isNone = false ∨ s.type? defaultQuery = none) : ProtocolKinds s where
  kinds := by
    intro es u hu shape hshape
    rcases mem_protocolTypes s es hu with rfl | rfl | ⟨rfl, -⟩ | ⟨rfl, hnone⟩ | ⟨rfl, hquery⟩
    · obtain ⟨url, rfl⟩ := h.any shape hshape
      exact ⟨rfl, rfl, rfl, rfl, rfl⟩
    · obtain ⟨is, fs, rfl⟩ := h.service shape hshape
      exact ⟨rfl, rfl, rfl, rfl, rfl⟩
    · obtain ⟨ms, rfl⟩ := h.entity shape hshape
      exact ⟨rfl, rfl, rfl, rfl, rfl⟩
    · have hname : fieldSetType.name = fieldSetScalar := rfl
      rw [Schema.shape?, hname, hnone] at hshape
      cases hshape
    · rcases hroot with hroot | hfree
      · rw [hquery] at hroot
        cases hroot
      · have hname : (queryType es).name = defaultQuery := rfl
        rw [Schema.shape?, hname, hfree] at hshape
        cases hshape
  fieldSet := by
    intro shape hshape
    obtain ⟨url, rfl⟩ := h.fieldSet shape hshape
    rfl

theorem Overridable.plain (h : Overridable s) {t : NamedType} (ht : s.type? (rootName s) = some t)
    (hobject : t.shape.isObject = true) : isTypeName (rootName s) = false := by
  have hshape : s.shape? (rootName s) = some t.shape := by rw [Schema.shape?, ht, Option.map_some]
  have hscalar : ∀ url, t.shape ≠ .scalar url := fun url heq => by rw [heq] at hobject; cases hobject
  have hunion : ∀ ms, t.shape ≠ .union ms := fun ms heq => by rw [heq] at hobject; cases hobject
  rw [Bool.eq_false_iff]
  intro hname
  have hmem : rootName s = "_Any" ∨ rootName s = "_FieldSet" ∨ rootName s = "_Service"
      ∨ rootName s = "_Entity" := by
    simpa [isTypeName, typeNames, anyScalar, fieldSetScalar, serviceType, entityUnion] using hname
  rcases hmem with hname | hname | hname | hname
  · obtain ⟨url, hshape⟩ := h.any _ (hname ▸ hshape)
    exact hscalar url hshape
  · obtain ⟨url, hshape⟩ := h.fieldSet _ (hname ▸ hshape)
    exact hscalar url hshape
  · exact h.ownRoot hname
  · obtain ⟨ms, hshape⟩ := h.entity _ (hname ▸ hshape)
    exact hunion ms hshape

theorem Overridable.extends (h : Overridable s) : ∃ s', s'.WellFormed ∧ ProtocolKinds s'
    ∧ Growable s' ∧ s'.types = s.types ∧ s'.directives = s.directives ∧ rootName s' = rootName s
    ∧ ∀ es, s.extend (additions s es) = s'.extend (additions s' es) := by
  cases ht : s.type? (rootName s) with
  | none =>
    obtain ⟨hquery, hfree⟩ := rootless_of_missing h.wellFormed ht
    exact ⟨s, h.wellFormed, h.kinds (.inr hfree), .rootless hquery hfree, rfl, rfl, rfl,
      fun _ => rfl⟩
  | some t =>
    obtain ⟨hshape, hdefined⟩ := h.root t ht
    obtain ⟨hmem, hname⟩ := Schema.mem_of_type? ht
    have hobject : s.isObject (rootName s) = true := by
      rw [Schema.isObject, Schema.shape?, ht]
      exact hshape
    have hroot : (withRoot s).query = some t.name := by rw [hname]; rfl
    have hwell : (withRoot s).WellFormed :=
      wellFormed_withRoot h.wellFormed (hname ▸ List.mem_map_of_mem hmem)
    have hoverridable : Overridable (withRoot s) :=
      ⟨hwell, h.texts, h.any, h.fieldSet, h.service, h.entity, h.root, h.ownRoot⟩
    refine ⟨withRoot s, hwell, hoverridable.kinds (.inl rfl),
      .rooted t hmem hroot hshape hdefined (hname ▸ h.plain ht hshape), rfl, rfl, rfl,
      fun es => extend_withRoot es hobject⟩

theorem ownRootFields_of_types {s' : Schema} (htypes : s'.types = s.types)
    (hroot : rootName s' = rootName s) : ownRootFields s' = ownRootFields s := by
  rw [ownRootFields, ownRootFields, Schema.type?, Schema.type?, htypes, hroot]

theorem overriddenFields_of_types {s' : Schema} (htypes : s'.types = s.types)
    (hroot : rootName s' = rootName s) : overriddenFields s' = overriddenFields s := by
  have hevaluated : Field.evaluated s' = Field.evaluated s := by
    funext f
    simp only [Field.evaluated, funext fun v : InputValue => v.evaluated_of_types htypes]
  have hsame : overriding s' = overriding s := by
    funext f
    rw [overriding, overriding, hevaluated]
  rw [overriddenFields, overriddenFields, hsame, ownRootFields_of_types htypes hroot]

theorem overrides_grown (hw : s.WellFormed) (hg : Growable s) (hes : es ≠ []) :
    Overrides s es (grown s es) where
  query := rfl
  root := by
    have hgrowable := hg
    cases hg with
    | rooted t ht hroot hobject hdefined hplain =>
      obtain ⟨-, is, fs, hs⟩ := hgrowable.root_defined hw ht hroot
      have hname : rootName s = t.name := by rw [rootName, hroot, Option.getD_some]
      have htype := Schema.type?_of_mem hw.names ht
      have hown : ownRootFields s = fs := by
        rw [ownRootFields, hname, htype, Option.map_some, hs]
        rfl
      refine ⟨grownType s es t, is, ?_, ?_⟩
      · rw [hname]
        exact type?_grown_plain hgrowable htype hplain
      · have hshape : (t.evaluated s).shape = .object is (fs.map (Field.evaluated s)) := by
          rw [NamedType.evaluated_shape, hs]
          rfl
        rw [grownType_plain hgrowable ht hplain, if_pos hroot, hshape, overriddenFields, hown]
        exact congrArg (TypeShape.object is)
          (lastByName_protocol hes (evaluatedFields_nodup hw ht hs))
    | rootless hquery hfree =>
      have hname : rootName s = defaultQuery := by rw [rootName, hquery, Option.getD_none]
      have hown : ownRootFields s = [] := by
        rw [ownRootFields, hname, hfree]
        rfl
      have hprotocol : queryType es ∈ protocolTypes s es := by simp [protocolTypes, hquery]
      refine ⟨queryType es, [], ?_, ?_⟩
      · rw [hname]
        exact type?_grown_protocol s es hprotocol
      · rw [queryType, protocolFieldTypes_of_ne_nil hes, overriddenFields, hown]
        rfl
  service := type?_grown_protocol s es (serviceObject_mem s es)
  entities := type?_grown_protocol s es (entityType_mem s es hes)

end Grown

/-- A schema grows by the entities of a configuration that fits it. -/
theorem Overridable.grows {s : Schema} {config : Config} (h : Overridable s)
    (haccepts : Accepts s config) (hduplicate : duplicate? s.directives = none) :
    ∃ s', s'.WellFormed ∧ Growable s' ∧ s'.types = s.types ∧ rootName s' = rootName s
      ∧ s.extend (additions s (⟨configuredTypes s config⟩ : Classification).entityNames)
        = .ok (grown s' (keyedNames config)) := by
  obtain ⟨s', hw, hkinds, hg, htypes, hdirectives, hroot, hextends⟩ := h.extends
  have hobjects : ∀ n ∈ (⟨configuredTypes s config⟩ : Classification).entityNames,
      s'.isObject n = true := by
    intro n hn
    rw [Schema.isObject, Schema.shape?, Schema.type?, htypes]
    exact entityNames_objects hn
  have hgrown := extend_additions hw hkinds hg hobjects (hdirectives ▸ hduplicate)
  refine ⟨s', hw, hg, htypes, hroot, (hextends _).trans ?_⟩
  rw [hgrown, haccepts.entityNames]

theorem find?_overriddenFields (s : Schema) :
    (overriddenFields s).find? (·.name == serviceField) = some serviceFieldType := by
  have hname : ∀ f, (overriding s f).name = f.name := by
    intro f
    unfold overriding
    split
    · next h => exact h.symm
    · split
      · next h => exact h.symm
      · rfl
  rw [overriddenFields, List.find?_append, find?_map_of_name hname]
  cases hf : (ownRootFields s).find? (·.name == serviceField) with
  | some f =>
    have hfound := List.find?_some hf
    have hservice : f.name = "_service" := eq_of_beq hfound
    rw [Option.map_some, Option.some_or, overriding, if_pos hservice]
    rfl
  | none =>
    have hfree : ((ownRootFields s).map (·.name)).contains serviceRootField.name = false := by
      rw [Bool.eq_false_iff]
      exact fun h => find?_eq_none_iff_not_mem.mp hf (List.contains_iff_mem.mp h)
    rw [Option.map_none, Option.none_or, List.filter_cons, hfree]
    rfl

section Transformed
variable {x y : Service} {config : Config} {c : Classification} {sdl : String}
  (hs : Overridable x.schema) (h : Transforms x config c sdl y)
include hs h

theorem Transforms.grows : ∃ s', s'.WellFormed ∧ Growable s' ∧ s'.types = x.schema.types
    ∧ rootName s' = rootName x.schema ∧ y.schema = Federation.grown s' (keyedNames config) := by
  obtain ⟨haccepts, rfl⟩ := classify_ok_iff.mp h.fits
  obtain ⟨s', hw, hg, htypes, hroot, hgrown⟩ := hs.grows haccepts h.conditions.2
  exact ⟨s', hw, hg, htypes, hroot, Except.ok.inj (h.extends.symm.trans hgrown)⟩

theorem Transforms.overrides (hkeyed : keyedNames config ≠ []) :
    Overrides x.schema (keyedNames config) y.schema := by
  obtain ⟨s', hw, hg, htypes, hroot, hschema⟩ := h.grows hs
  have hgrown := overrides_grown hw hg hkeyed
  rw [← hschema] at hgrown
  refine ⟨hroot ▸ hgrown.query, ?_, hgrown.service, hgrown.entities⟩
  rw [← overriddenFields_of_types htypes hroot, ← hroot]
  exact hgrown.root

theorem Transforms.texts : y.schema.shape? "String" = some (.scalar none) := by
  obtain ⟨s', hw, hg, htypes, -, hschema⟩ := h.grows hs
  obtain ⟨t, ht, hshape⟩ := Option.map_eq_some_iff.mp hs.texts
  have ht' : s'.type? "String" = some t := by rw [Schema.type?, htypes]; exact ht
  obtain ⟨hmem, hname⟩ := Schema.mem_of_type? ht'
  have hplain : isTypeName t.name = false := by rw [hname]; decide
  have hevaluated : (t.evaluated s').shape = .scalar none := by
    rw [NamedType.evaluated_shape, hshape]
    rfl
  rw [hschema, Schema.shape?, type?_grown_plain hg ht' (by decide), Option.map_some,
    grownType_plain hg hmem hplain]
  split
  · rw [hevaluated]
    rfl
  · rw [hevaluated]

omit hs h in
theorem definedNames_service (s : Schema) (es : List String) :
    (definedNames (additions s es)).contains serviceType = true := by
  refine List.contains_iff_mem.mpr (List.mem_map.mpr
    ⟨(none, ⟨(), serviceType, [], .object [] [⟨none, "sdl", [], .named "String", []⟩]⟩), ?_, rfl⟩)
  rw [(parts_additions s es).1]
  simp [commonDefinitions]

/-- The root field for the service is resolved to the SDL, and below it nothing is resolved or
checked otherwise. -/
theorem Transforms.holdsSdl (hkeyed : keyedNames config ≠ []) :
    ∃ t, HoldsSdl y t serviceObject (printSdl x.schema c) := by
  obtain ⟨hquery, ⟨t, is, ht, hshape⟩, hservice, -⟩ := h.overrides hs hkeyed
  have hname : t.name = rootName x.schema := (Schema.mem_of_type? ht).2
  have hdefined := definedNames_service x.schema c.entityNames
  refine ⟨t, by rw [hname]; exact hquery, by rw [hname]; exact ht, by rw [hshape]; rfl, ?_, hservice,
    rfl, rfl, h.texts hs, ?_, ?_, ?_⟩
  · rw [NamedType.field?, hshape]
    exact find?_overriddenFields x.schema
  · rw [Service.resolver?, h.resolvers, hname, protocolResolvers, List.cons_append,
      List.lookup_cons, beq_self_eq_true, h.sdl_eq]
  · refine List.lookup_eq_none_iff.mpr fun r hr => bne_iff_ne.mpr fun hkey => ?_
    rw [h.resolvers] at hr
    rcases List.mem_append.mp hr with hr | hr
    · have hroot := (mem_protocolResolvers hr).1
      rw [← hkey] at hroot
      exact hs.ownRoot hroot.symm
    · have hkept := (List.mem_filter.mp hr).2
      rw [← hkey, hdefined] at hkept
      cases hkept
  · refine List.lookup_eq_none_iff.mpr fun r hr => bne_iff_ne.mpr fun hkey => ?_
    rw [h.typeChecks] at hr
    have hkept := (List.mem_filter.mp hr).2
    rw [← hkey, hdefined] at hkept
    cases hkept

end Transformed

section Transform
variable {registry : Registry} {x : Service} {raw : Raw} {config : Config} {c : Classification}

/-- What a service answers to the query for the SDL, whatever comes with it. -/
def AnswersSdl (y : Service) (sdl : String) : Prop :=
  ∀ (r : QueryRequest) (calls : Nat), r.text = sdlQuery →
    (r.bindings = .null ∨ ∃ es, r.bindings = .record es) →
    y.answer r calls
      = .ok ⟨.record [("_service", .record [("sdl", .text sdl)])], [], [], [], 0⟩

/-- A configuration with entities that fits a schema transforms it, if the SDL can be written and no
specified directive keeps the schema from being extended. The definitions of the protocol then
override what is in their places, and if the schema that comes out is valid, the query for the SDL is
answered with it. -/
theorem transform_overrides (old : List LogRecord) (hs : Overridable x.schema)
    (hparse : parse registry raw = .ok config) (hclassify : classify x.schema config = .ok c)
    (hkeyed : keyedNames config ≠ []) :
    ((transform registry x raw old).1.isOk = true
        ↔ unwritable? x.schema = none ∧ duplicate? x.schema.directives = none)
      ∧ ∀ y, (transform registry x raw old).1 = .ok y →
        Overrides x.schema (keyedNames config) y.schema
          ∧ (y.schema.problems = [] → AnswersSdl y (printSdl x.schema c)) := by
  refine ⟨⟨conditions_of_isOk, fun ⟨hwritable, hduplicate⟩ => ?_⟩, fun y hy => ?_⟩
  · obtain ⟨haccepts, rfl⟩ := classify_ok_iff.mp hclassify
    obtain ⟨s', -, -, -, -, hextend⟩ := hs.grows haccepts hduplicate
    obtain ⟨y, hyields, -⟩ := transformBy_yields_of_extend
      (.of_root hs.wellFormed hs.root) hwritable haccepts hextend
    exact transform_isOk_of_yields hparse hyields old
  · obtain ⟨config', c', sdl, hparse', h⟩ := transform_ok hy
    obtain rfl : config' = config := Except.ok.inj (hparse'.symm.trans hparse)
    obtain rfl : c' = c := Except.ok.inj (h.fits.symm.trans hclassify)
    refine ⟨h.overrides hs hkeyed, fun hvalid r calls htext hbindings => ?_⟩
    obtain ⟨t, hholds⟩ := h.holdsSdl hs hkeyed
    exact hholds.answer_sdl hvalid htext hbindings calls

end Transform

section Collisions

/-- The definitions of the protocol win all collisions in a schema. -/
def Overridden (s : Schema) (raw : Raw) : Prop :=
  ∃ config c y, parse shopRegistry raw = .ok config ∧ classify s config = .ok c
    ∧ (transform shopRegistry (.ofSchema s) raw []).1 = .ok y
    ∧ Overrides s (keyedNames config) y.schema
    ∧ (y.schema.problems = [] → AnswersSdl y (printSdl s c))

/-- A schema that has something under every name of the protocol. -/
def crowded : Schema :=
  schemaOf [queryOf [intField "_service", ⟨none, "product", [], .named "Product", none, []⟩,
      ⟨none, "_entities", [⟨none, "first", .named "Int", none, none, []⟩], .named "String", none, []⟩],
    ⟨none, "Product", .object [] [⟨none, "id", [], .nonNull (.named "ID"), none, []⟩], []⟩,
    ⟨none, "_Any", .scalar (some "any"), []⟩, ⟨none, "_FieldSet", .scalar none, []⟩,
    ⟨none, "_Service", .object [] [intField "version"], []⟩, ⟨none, "_Entity", .union ["Query"], []⟩]
    []

/-- Where this schema has no query root, one of its types becomes the root. -/
def lateCrowded : Schema := { crowded with query := none }

/-- A schema that is given a query root. -/
def rootless : Schema :=
  { schemaOf [⟨none, "Product", .object [] [⟨none, "id", [], .nonNull (.named "ID"), none, []⟩], []⟩]
      [] with query := none }

theorem overridable_crowded : Overridable crowded where
  wellFormed := by decide +kernel
  texts := rfl
  any := fun shape hshape => by cases hshape; exact ⟨_, rfl⟩
  fieldSet := fun shape hshape => by cases hshape; exact ⟨_, rfl⟩
  service := fun shape hshape => by cases hshape; exact ⟨_, _, rfl⟩
  entity := fun shape hshape => by cases hshape; exact ⟨_, rfl⟩
  root := fun t ht => by cases ht; decide +kernel
  ownRoot := by decide

theorem overridable_lateCrowded : Overridable lateCrowded :=
  { overridable_crowded with wellFormed := by decide +kernel }

theorem overridable_of_undeclared {s : Schema} (hw : s.WellFormed)
    (htexts : s.shape? "String" = some (.scalar none))
    (hundeclared : ∀ n ∈ typeNames, (s.type? n).isNone = true)
    (hroot : (s.type? (rootName s)).all (fun t => t.shape.isObject && t.isDefined) = true)
    (hname : rootName s ≠ "_Service") : Overridable s := by
  have hnone : ∀ n ∈ typeNames, ∀ shape, s.shape? n ≠ some shape := by
    intro n hn shape hshape
    rw [Schema.shape?, Option.isNone_iff_eq_none.mp (hundeclared n hn)] at hshape
    cases hshape
  refine ⟨hw, htexts, fun shape h => ?_, fun shape h => ?_, fun shape h => ?_, fun shape h => ?_,
    fun t ht => ?_, hname⟩
  · exact absurd h (hnone "_Any" (by decide) shape)
  · exact absurd h (hnone "_FieldSet" (by decide) shape)
  · exact absurd h (hnone "_Service" (by decide) shape)
  · exact absurd h (hnone "_Entity" (by decide) shape)
  · rw [ht] at hroot
    exact Bool.and_eq_true_iff.mp hroot

theorem overridable_rootless : Overridable rootless :=
  overridable_of_undeclared (by decide +kernel) rfl (by decide +kernel) (by decide +kernel)
    (by decide)

theorem transform_overrides_collisions :
    (Overridable crowded ∧ Overridden crowded productKeys ∧ ValidAfter crowded productKeys)
      ∧ (Overridable lateCrowded ∧ Overridden lateCrowded productKeys
        ∧ ValidAfter lateCrowded productKeys)
      ∧ Overridable rootless ∧ Overridden rootless productKeys ∧ ValidAfter rootless productKeys := by
  have hafter : ∀ {s : Schema} {config : Config} {c : Classification}, Overridable s →
      parse shopRegistry productKeys = .ok config → classify s config = .ok c →
      keyedNames config ≠ [] → unwritable? s = none → duplicate? s.directives = none →
      ((transform shopRegistry (.ofSchema s) productKeys []).1.toOption.any
        (fun y => decide (y.schema.problems = []))) = true →
      Overridable s ∧ Overridden s productKeys ∧ ValidAfter s productKeys := by
    intro s config c hs hparse hclassify hkeyed hwritable hduplicate hvalid
    obtain ⟨hok, hoverrides⟩ := transform_overrides (x := .ofSchema s) [] hs hparse hclassify hkeyed
    have hyields := hok.mpr ⟨hwritable, hduplicate⟩
    cases hy : (transform shopRegistry (.ofSchema s) productKeys []).1 with
    | error e =>
      rw [hy] at hyields
      cases hyields
    | ok y =>
      obtain ⟨hschema, hanswers⟩ := hoverrides y hy
      rw [hy] at hvalid
      exact ⟨hs, ⟨config, c, y, hparse, hclassify, hy, hschema, hanswers⟩, y, hy,
        of_decide_eq_true hvalid⟩
  refine ⟨hafter overridable_crowded rfl rfl (by decide) ?_ ?_ (by decide +kernel),
    hafter overridable_lateCrowded rfl rfl (by decide) ?_ ?_ (by decide +kernel),
    hafter overridable_rootless rfl rfl (by decide) ?_ ?_ (by decide +kernel)⟩
  all_goals exact Option.isNone_iff_eq_none.mp (by decide +kernel)

theorem not_overridden {s : Schema} {raw : Raw}
    (h : (transform shopRegistry (.ofSchema s) raw []).1.toOption.any (fun y =>
      decide (((y.schema.type? "_Service").map fun t => t.shape.fields.map (·.name)) = some ["sdl"]))
        = false) : ¬ Overridden s raw := by
  rintro ⟨config, c, y, -, -, hy, hoverrides, -⟩
  rw [hy, Except.toOption, Option.any_some, hoverrides.service] at h
  cases h

/-- What makes entities of the query root. -/
def queryKeys (field : String) : Raw :=
  .record [(.text "Query", .record [(.text "keyFields", .text field)])]

/-- A query root that is the service type loses its own fields, and the service type takes those of
the root. A default that cannot be written and a specified directive of its own keep a schema from
being transformed at all. -/
theorem not_transform_overrides :
    (serviceRoot.WellFormed ∧ AcceptsRaw shopRegistry serviceRoot productKeys
      ∧ ¬ Overridden serviceRoot productKeys)
    ∧ (Overridable looseDefault ∧ AcceptsRaw shopRegistry looseDefault (queryKeys "f")
      ∧ ¬ Overridden looseDefault (queryKeys "f"))
    ∧ (Overridable ownReason ∧ AcceptsRaw shopRegistry ownReason (queryKeys "a")
      ∧ ¬ Overridden ownReason (queryKeys "a")) := by
  refine ⟨⟨by decide +kernel, ⟨_, rfl, ⟨_, rfl⟩, by decide⟩, not_overridden (by decide +kernel)⟩,
    ⟨?_, ⟨_, rfl, ⟨_, rfl⟩, by decide⟩, not_overridden (by decide +kernel)⟩,
    ⟨?_, ⟨_, rfl, ⟨_, rfl⟩, by decide⟩, not_overridden (by decide +kernel)⟩⟩
  · exact overridable_of_undeclared (by decide +kernel) rfl (by decide +kernel)
      (by decide +kernel) (by decide)
  · exact overridable_of_undeclared (by decide +kernel) rfl (by decide +kernel)
      (by decide +kernel) (by decide)

end Collisions

end Subgraph.Federation
