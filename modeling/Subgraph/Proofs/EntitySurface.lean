import Subgraph.Proofs.Retransform
import Subgraph.Proofs.Rooting
import Subgraph.Proofs.Transforming

/-!
# What a service shows of its entities

The union of the entities and the root field for them come with the first configuration that has an
entity. From then on they follow the last such configuration: a later one without entities adds
neither and carries over what is there, as it does with all types, fields and resolvers.
-/

namespace Subgraph.Federation
open Config Build

/-- The last of some configurations that has an entity. -/
def lastKeyed (configs : List Config) : Option Config :=
  (configs.filter fun config => !(keyedNames config).isEmpty).getLast?

theorem lastKeyed_cons (config : Config) (configs : List Config) :
    lastKeyed (config :: configs)
      = (lastKeyed configs).or (if (keyedNames config).isEmpty then none else some config) := by
  unfold lastKeyed
  rw [List.filter_cons]
  cases (keyedNames config).isEmpty with
  | true => simp
  | false =>
    simp only [Bool.not_false, if_true, Bool.false_eq_true, if_false]
    rw [List.getLast?_cons]
    cases (configs.filter fun config => !(keyedNames config).isEmpty).getLast? <;> rfl

/-- What stands through all transformations: the types of introspection are there, and the query
root is an object type other than the service type, which every transformation defines anew. -/
structure Standing (s : Schema) : Prop extends Rooted s where
  introspection : ∀ n ∈ introspectionNames, n ∈ s.types.map (·.name)
  ownRoot : rootName s ≠ serviceType

section Union
variable {s s' : Schema} {es : List String}

theorem addExtension_union_iff {t : NamedType} {ms : List String} (name : String) :
    (addExtension t (queryBody name es)).shape = .union ms ↔ t.shape = .union ms := by
  cases hs : t.shape <;> simp [addExtension, hs, shape, queryBody, addShape]

theorem extendExisting_union_iff {t : NamedType} {ms : List String} (name : String) :
    (extendExisting t (queryBody name es)).shape = .union ms ↔ t.shape = .union ms := by
  cases hs : t.shape <;> simp [extendExisting, addExtension, hs, shape, queryBody, addShape]

theorem foldl_union_iff {extend : NamedType → TypeDefinition Unit → NamedType} {name : String}
    (hextend : ∀ t ms, (extend t (queryBody name es)).shape = .union ms ↔ t.shape = .union ms)
    {ds : List (TypeDefinition Unit)} (hds : ∀ d ∈ ds, d = queryBody name es) (t : NamedType)
    (ms : List String) : (ds.foldl extend t).shape = .union ms ↔ t.shape = .union ms := by
  induction ds generalizing t with
  | nil => rfl
  | cons d ds ih =>
    rw [List.foldl_cons, ih fun e he => hds e (List.mem_cons_of_mem d he), hds d List.mem_cons_self,
      hextend]

theorem settle_union_iff {t : NamedType} {ms : List String} :
    (settle t).shape = .union ms ↔ t.shape = .union ms := by
  cases hs : t.shape <;> simp [settle, hs]

theorem evaluated_union_iff {t : NamedType} {ms : List String} :
    (t.evaluated s).shape = .union ms ↔ t.shape = .union ms := by
  cases hs : t.shape <;> simp [NamedType.evaluated, TypeShape.mapInputs, hs]

theorem rootExtensions_all (s : Schema) (es : List String) (p : TypeDefinition Unit → Bool) :
    ∀ d ∈ (if createsRoot s then [] else [queryBody (rootName s) es]).filter p,
      d = queryBody (rootName s) es := by
  intro d hd
  have hd := List.mem_of_mem_filter hd
  split at hd
  · cases hd
  · exact List.mem_singleton.mp hd

theorem union_of_entities (hnames : (s.types.map (·.name)).Nodup) (hes : es ≠ [])
    (h : s.add (additions s es) = .ok s') : s'.shape? entityUnion = some (.union es) := by
  have hbuiltin : Builtin.type? entityUnion = none := by decide +kernel
  rw [Schema.shape?, type?_add hnames h, show (entityUnion == defaultQuery) = false by decide,
    Bool.and_false, find?_commonDefinitions_union hes]
  simp only [Bool.false_eq_true, if_false, Option.none_or, Option.map_some, Option.some_or, namedType,
    hbuiltin, Option.some.injEq]
  exact settle_union_iff.mpr ((foldl_union_iff (fun _ _ => addExtension_union_iff _)
    (rootExtensions_all s es _) _ es).mpr rfl)

theorem union_without_entities (hnames : (s.types.map (·.name)).Nodup)
    (h : s.add (additions s []) = .ok s') (ms : List String) :
    s'.shape? entityUnion = some (.union ms) ↔ s.shape? entityUnion = some (.union ms) := by
  rw [Schema.shape?, Schema.shape?, type?_add hnames h,
    show (entityUnion == defaultQuery) = false by decide, Bool.and_false, find?_extended,
    find?_commonDefinitions_no_union]
  cases s.type? entityUnion with
  | none => simp
  | some t =>
    simp only [Bool.false_eq_true, if_false, Option.none_or, Option.map_none, Option.map_some,
      Option.some.injEq]
    rw [settle_union_iff]
    split
    · rw [foldl_union_iff (fun _ _ => extendExisting_union_iff _) (rootExtensions_all s [] _),
        evaluated_union_iff]
    · rw [evaluated_union_iff]

end Union

section Extended
variable {s s' : Schema} {es : List String}

theorem kept_add (hnames : (s.types.map (·.name)).Nodup) (h : s.add (additions s es) = .ok s')
    {n : String} (hn : n ∈ s.types.map (·.name)) : n ∈ s'.types.map (·.name) := by
  obtain ⟨t, ht⟩ := Option.ne_none_iff_exists'.mp (mem_names_iff.mp hn)
  rw [mem_names_iff, type?_add hnames h, find?_extended, ht]
  simp

/-- The types of a schema have different names, and those of introspection are among them. -/
structure Listed (s : Schema) : Prop where
  names : (s.types.map (·.name)).Nodup
  introspection : ∀ n ∈ introspectionNames, n ∈ s.types.map (·.name)

theorem Listed.extend (hl : Listed s) (h : s.extend (additions s es) = .ok s') : Listed s' := by
  obtain ⟨s₁, hadd, rfl⟩ := extend_eq h
  have hintrospection : ∀ n ∈ introspectionNames, n ∈ s₁.types.map (·.name) :=
    fun n hn => kept_add hl.names hadd (hl.introspection n hn)
  have hplaced := withBuiltins_placed (add_names hadd) s₁.directives
  refine ⟨hplaced.distinct, fun n hn => ?_⟩
  obtain ⟨t, ht, rfl⟩ := List.mem_map.mp (hintrospection n hn)
  exact List.mem_map_of_mem (hplaced.kept t ht)

theorem Standing.extend (hs : Standing s) (h : s.extend (additions s es) = .ok s') :
    Standing s' := by
  obtain ⟨hquery, hroot⟩ := rootName_extend h
  have hlisted := Listed.extend ⟨hs.names, hs.introspection⟩ h
  obtain ⟨s₁, hadd, rfl⟩ := extend_eq h
  refine ⟨⟨hlisted.names, fun q hq => ?_⟩, hlisted.introspection, hroot ▸ hs.ownRoot⟩
  obtain rfl : rootName s = q := Option.some.inj (hquery.symm.trans hq)
  obtain ⟨t, is, fs, ht, -, hshape, -⟩ := hs.root_add hadd
  refine ⟨?_, hs.root_defined⟩
  rw [Schema.isObject, Schema.shape?, type?_placeBuiltins hs.root_defined, ht, Option.map_some,
    settle, hshape]
  rfl

theorem Standing.mem_fieldNames (hs : Standing s) (h : s.extend (additions s es) = .ok s')
    (n : String) : n ∈ fieldNamesOf s' (rootName s)
      ↔ n ∈ fieldNamesOf s (rootName s) ∨ n ∈ (protocolFieldTypes es).map (·.name) := by
  obtain ⟨s₁, hadd, rfl⟩ := extend_eq h
  obtain ⟨t, is, fs, ht, -, hshape, hfields⟩ := hs.root_add hadd
  have hsettle : ∀ fs : List Field, (fs.map settleField).map (·.name) = fs.map (·.name) := by
    intro fs
    rw [List.map_map]
    rfl
  have hshape' : s₁.placeBuiltins.shape? (rootName s) = some (.object is
      (lastByName (·.name) ((fs ++ protocolFieldTypes es).map settleField))) := by
    rw [Schema.shape?, type?_placeBuiltins hs.root_defined, ht, Option.map_some, settle, hshape]
  rw [fieldNamesOf, hshape', mem_names_lastByName, hsettle, List.map_append, hfields hs.ownRoot,
    List.mem_append]

theorem Standing.union_none (hs : Standing s) (h : s.extend (additions s []) = .ok s')
    (hnone : s.type? entityUnion = none) : s'.type? entityUnion = none := by
  obtain ⟨s₁, hadd, rfl⟩ := extend_eq h
  have hquery : (entityUnion == defaultQuery) = false := by decide
  rw [type?_placeBuiltins (by decide), type?_add hs.names hadd, find?_extended, hnone,
    find?_commonDefinitions_no_union, hquery, Bool.and_false]
  rfl

theorem Standing.union_kept (hs : Standing s) (h : s.extend (additions s []) = .ok s')
    {members : List String} (hunion : s.shape? entityUnion = some (.union members)) :
    s'.shape? entityUnion = some (.union members) := by
  obtain ⟨s₁, hadd, rfl⟩ := extend_eq h
  rw [Schema.shape?, type?_placeBuiltins (by decide)]
  exact (union_without_entities hs.names hadd members).mpr hunion

theorem Standing.root_kept (hs : Standing s) (h : s.extend (additions s es) = .ok s')
    (hobject : s.isObject (rootName s) = true) :
    (definedNames (additions s es)).contains (rootName s) = false := by
  obtain ⟨s₁, hadd, rfl⟩ := extend_eq h
  have hcreates : createsRoot s = false := by
    unfold createsRoot
    cases hq : s.query with
    | some q => rfl
    | none =>
      rw [rootName, hq] at hobject
      rw [show s.isObject defaultQuery = true from hobject]
      rfl
  have hfind := find?_commonDefinitions_root hadd hcreates hobject hs.ownRoot
  obtain ⟨htypes, -, -, -⟩ := parts_additions s es
  rw [definedNames, htypes, hcreates, Bool.eq_false_iff]
  intro hmem
  rw [List.contains_iff_mem] at hmem
  obtain ⟨d, hd, hname⟩ := List.mem_map.mp hmem
  rw [if_neg Bool.false_ne_true, List.append_nil] at hd
  exact List.find?_eq_none.mp hfind d hd (beq_iff_eq.mpr hname)

end Extended

/-- There is neither a union of the entities nor a root field for them. -/
structure HidesEntities (x : Service) : Prop where
  union : x.schema.type? entityUnion = none
  field : entitiesField ∉ fieldNamesOf x.schema (rootName x.schema)

/-- The entities of a configuration are the members of the union in their order, and the root field
for them resolves representations by this configuration. -/
structure ShowsEntities (x : Service) (config : Config) : Prop where
  members : x.schema.shape? entityUnion = some (.union (keyedNames config))
  field : entitiesField ∈ fieldNamesOf x.schema (rootName x.schema)
  resolver : ∃ c, x.resolver? (rootName x.schema) entitiesField = some (.entities c)
    ∧ c.types.map (fun t => (t.name, t.settings)) = config

/-- What is seen of the entities is what a configuration asks for, or nothing. -/
def EntitySurface (x : Service) : Option Config → Prop
  | none => HidesEntities x
  | some config => ShowsEntities x config

section Transformed
variable {registry : Registry} {x y : Service} {config : Config} {c : Classification} {sdl : String}

theorem Transforms.classification (h : Transforms x config c sdl y) :
    c.types.map (fun t => (t.name, t.settings)) = config ∧ c.entityNames = keyedNames config := by
  obtain ⟨haccepts, rfl⟩ := classify_ok_iff.mp h.fits
  exact ⟨haccepts.configured, haccepts.entityNames⟩

/-- A configuration with entities is what the service shows, whatever it showed before. -/
theorem Transforms.shows (hs : Standing x.schema) (h : Transforms x config c sdl y)
    (hkeyed : keyedNames config ≠ []) : ShowsEntities y config := by
  obtain ⟨hconfig, hnames⟩ := h.classification
  have hextend := h.extends
  rw [hnames] at hextend
  have hempty : c.entityNames.isEmpty = false := by simpa [hnames] using hkeyed
  have hroot := (rootName_extend hextend).2
  refine ⟨?_, ?_, c, ?_, hconfig⟩
  · obtain ⟨s₁, hadd, hs₁⟩ := extend_eq hextend
    rw [Schema.shape?, ← hs₁, type?_placeBuiltins (by decide), hs.union_add hkeyed hadd]
    rfl
  · rw [hroot, hs.mem_fieldNames hextend, protocolFieldTypes_eq, ← hnames, hempty]
    simp
  · have hservice : ((rootName x.schema, entitiesField) == (rootName x.schema, serviceField))
        = false := by simp [entitiesField, serviceField]
    rw [hroot, Service.resolver?, h.resolvers, protocolResolvers, hempty, if_neg Bool.false_ne_true]
    rw [List.cons_append, List.lookup_cons, hservice, List.cons_append, List.lookup_cons,
      beq_self_eq_true]

theorem Transforms.carries (hs : Standing x.schema) (h : Transforms x config c sdl y)
    (hkeyed : keyedNames config = []) {last : Option Config} (hlast : EntitySurface x last) :
    EntitySurface y last := by
  obtain ⟨-, hnames⟩ := h.classification
  rw [hkeyed] at hnames
  have hextend := h.extends
  rw [hnames] at hextend
  have hroot := (rootName_extend hextend).2
  have hfield : entitiesField ∈ fieldNamesOf y.schema (rootName y.schema)
      ↔ entitiesField ∈ fieldNamesOf x.schema (rootName x.schema) := by
    rw [hroot, hs.mem_fieldNames hextend, or_iff_left_iff_imp]
    intro hmem
    exact absurd hmem (by decide)
  cases last with
  | none => exact ⟨hs.union_none hextend hlast.union, fun hmem => hlast.field (hfield.mp hmem)⟩
  | some shown =>
    have hobject : x.schema.isObject (rootName x.schema) = true := by
      by_contra hno
      have hnone := fieldNamesOf_of_not_object (Bool.not_eq_true _ |>.mp hno)
      exact absurd (hnone ▸ hlast.field) List.not_mem_nil
    refine ⟨hs.union_kept hextend hlast.members, hfield.mpr hlast.field, ?_⟩
    obtain ⟨c', hc', hconfig⟩ := hlast.resolver
    refine ⟨c', ?_, hconfig⟩
    -- Without entities the protocol resolves one field only, and the old resolver stays.
    have hkept := hs.root_kept hextend hobject
    have hempty : c.entityNames.isEmpty = true := by rw [hnames]; rfl
    have hservice : ((rootName x.schema, entitiesField) == (rootName x.schema, serviceField))
        = false := by simp [entitiesField, serviceField]
    have hother : (((rootName x.schema, serviceField), Resolver.sdl sdl) :: []).any
        (·.1 == (rootName x.schema, entitiesField)) = false := by
      simp [entitiesField, serviceField]
    rw [hroot, Service.resolver?, h.resolvers, hnames, protocolResolvers, hempty, if_pos rfl,
      List.cons_append, List.lookup_cons, hservice, List.nil_append]
    refine (lookup_filter (p := fun k => !(definedNames (additions x.schema [])).contains k.1
      && !([((rootName x.schema, serviceField), Resolver.sdl sdl)].any (·.1 == k))) ?_ _).trans hc'
    rw [hkept, hother]
    rfl

theorem Transforms.surface (hs : Standing x.schema) (h : Transforms x config c sdl y)
    {last : Option Config} (hlast : EntitySurface x last) :
    EntitySurface y ((if (keyedNames config).isEmpty then none else some config).or last) := by
  cases hkeyed : keyedNames config with
  | nil => exact h.carries hs hkeyed hlast
  | cons n ns => exact h.shows hs (hkeyed ▸ List.cons_ne_nil n ns)

/-- Along a run the surface is that of the last configuration with an entity, or the one at the
start. -/
theorem EntitySurface.run {raws : List Raw} {old : List LogRecord} (hs : Standing x.schema)
    {last : Option Config} (hlast : EntitySurface x last)
    (hrun : ((raws.foldlM (transform registry) x) old).1 = .ok y) :
    ∃ configs, List.Forall₂ (fun raw config => parse registry raw = .ok config) raws configs
      ∧ EntitySurface y ((lastKeyed configs).or last) := by
  -- By induction on the configurations still to come; the surface of the last one with an entity
  -- is carried along.
  induction raws generalizing x old last with
  | nil =>
    obtain rfl : x = y := Except.ok.inj hrun
    exact ⟨[], .nil, hlast⟩
  | cons raw raws ih =>
    rw [List.foldlM_cons] at hrun
    obtain ⟨x', old', hstep, hrest⟩ := Logged.of_bind_ok hrun
    obtain ⟨config, c, sdl, hparse, hstep⟩ := transform_ok hstep
    obtain ⟨configs, hconfigs, hsurface⟩ := ih (hs.extend hstep.extends) (hstep.surface hs hlast) hrest
    refine ⟨config :: configs, .cons hparse hconfigs, ?_⟩
    rw [lastKeyed_cons, Option.or_assoc]
    exact hsurface

end Transformed

/-- After any number of transformations of a service without entities, the union of the entities and
the root field for them are those of the last configuration that has an entity; where none has one,
there is neither. -/
theorem entitySurface_lastKeyed (registry : Registry) (x y : Service) (raws : List Raw)
    (old : List LogRecord) (hs : Standing x.schema) (hnone : HidesEntities x)
    (hrun : ((raws.foldlM (transform registry) x) old).1 = .ok y) :
    ∃ configs, List.Forall₂ (fun raw config => parse registry raw = .ok config) raws configs
      ∧ EntitySurface y (lastKeyed configs) := by
  have hstart : EntitySurface x none := hnone
  obtain ⟨configs, hconfigs, hsurface⟩ := hstart.run hs hrun
  rw [Option.or_none] at hsurface
  exact ⟨configs, hconfigs, hsurface⟩

section Runs

/-- A type that becomes the query root and has a field of the protocol. -/
def lateEntities : Schema := lateRoot [⟨none, entitiesField, [], .named "Int", none, []⟩]

theorem standing_shop : Standing shop where
  toRooted := rooted_shop
  introspection := by decide +kernel
  ownRoot := by decide +kernel

theorem hidesEntities_shop : HidesEntities (.ofSchema shop) :=
  ⟨Option.isNone_iff_eq_none.mp (by decide +kernel), by decide +kernel⟩

theorem entitySurface_lastKeyed_shop : Standing shop ∧ HidesEntities (.ofSchema shop)
    ∧ ∃ y, (([.record [], productKeys, .record []].foldlM (transform shopRegistry)
        (.ofSchema shop)) []).1 = .ok y
      ∧ ∃ configs, List.Forall₂ (fun raw config => parse shopRegistry raw = .ok config)
          [.record [], productKeys, .record []] configs
        ∧ EntitySurface y (lastKeyed configs) := by
  refine ⟨standing_shop, hidesEntities_shop, ?_⟩
  have hrun : (([.record [], productKeys, .record []].foldlM (transform shopRegistry)
      (.ofSchema shop)) []).1.isOk = true := by decide +kernel
  cases hy : (([.record [], productKeys, .record []].foldlM (transform shopRegistry)
      (.ofSchema shop)) []).1 with
  | error e => rw [hy] at hrun; cases hrun
  | ok y =>
    exact ⟨y, rfl, entitySurface_lastKeyed shopRegistry (.ofSchema shop) y
      [.record [], productKeys, .record []] [] standing_shop hidesEntities_shop hy⟩

/-- Whether the last configuration alone decides if there is a union of the entities and a root field
for them. -/
def FollowsLast (registry : Registry) (x : Service) : Prop :=
  ∀ raws raw config y, parse registry raw = .ok config →
    (((raws ++ [raw]).foldlM (transform registry) x) []).1 = .ok y →
    ((y.schema.type? entityUnion).isSome = true ↔ keyedNames config ≠ [])
      ∧ (entitiesField ∈ fieldNamesOf y.schema (rootName y.schema) ↔ keyedNames config ≠ [])

/-- Whether a run leaves a union of the entities, and a root field for them. -/
def entitiesLeft (x : Service) (raws : List Raw) : Option (Bool × Bool) :=
  ((raws.foldlM (transform shopRegistry) x) []).1.toOption.map fun y =>
    ((y.schema.type? entityUnion).isSome,
      (fieldNamesOf y.schema (rootName y.schema)).contains entitiesField)

theorem entitiesLeft_eq {x : Service} {raws : List Raw} {left : Bool × Bool}
    (h : entitiesLeft x raws = some left) :
    ∃ y, ((raws.foldlM (transform shopRegistry) x) []).1 = .ok y
      ∧ (y.schema.type? entityUnion).isSome = left.1
      ∧ (entitiesField ∈ fieldNamesOf y.schema (rootName y.schema) ↔ left.2 = true) := by
  unfold entitiesLeft at h
  cases hy : ((raws.foldlM (transform shopRegistry) x) []).1 with
  | error e => rw [hy] at h; cases h
  | ok y =>
    rw [hy] at h
    cases h
    exact ⟨y, rfl, rfl, List.contains_iff_mem.symm⟩

/-- What an earlier configuration brought stays. A query root with the name of the service type loses
the field while the union stays, and a type that becomes the query root may have had the field. -/
theorem not_followsLast :
    (HidesEntities (.ofSchema shop) ∧ ¬ FollowsLast shopRegistry (.ofSchema shop))
    ∧ (HidesEntities (.ofSchema serviceRoot)
      ∧ ∃ y, (([productKeys, .record []].foldlM (transform shopRegistry)
          (.ofSchema serviceRoot)) []).1 = .ok y
        ∧ ∀ last, ¬ EntitySurface y last)
    ∧ (lateEntities.query = none ∧ lateEntities.type? entityUnion = none
      ∧ ¬ FollowsLast shopRegistry (.ofSchema lateEntities)) := by
  refine ⟨⟨hidesEntities_shop, fun hfollows => ?_⟩,
    ⟨⟨Option.isNone_iff_eq_none.mp (by decide +kernel), by decide +kernel⟩, ?_⟩,
    ⟨rfl, Option.isNone_iff_eq_none.mp (by decide +kernel), fun hfollows => ?_⟩⟩
  · obtain ⟨y, hrun, hunion, -⟩ := entitiesLeft_eq
      (show entitiesLeft (.ofSchema shop) [productKeys, .record []] = some (true, true) by
        decide +kernel)
    exact (hfollows [productKeys] (.record []) [] y rfl hrun).1.mp hunion rfl
  · obtain ⟨y, hrun, hunion, hfield⟩ := entitiesLeft_eq
      (show entitiesLeft (.ofSchema serviceRoot) [productKeys, .record []] = some (true, false) by
        decide +kernel)
    refine ⟨y, hrun, fun last hsurface => ?_⟩
    cases last with
    | none =>
      rw [hsurface.union] at hunion
      cases hunion
    | some config => exact absurd (hfield.mp hsurface.field) Bool.false_ne_true
  · obtain ⟨y, hrun, -, hfield⟩ := entitiesLeft_eq
      (show entitiesLeft (.ofSchema lateEntities) [.record []] = some (false, true) by decide +kernel)
    exact (hfollows [] (.record []) [] y rfl hrun).2.mp (hfield.mpr rfl) rfl

end Runs

end Subgraph.Federation
