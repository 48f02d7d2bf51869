import Subgraph.Federation.Additions
import Subgraph.Proofs.Resolving

/-!
# What the protocol definitions make of a schema

A well-formed schema with an object type at its query root, or with nothing in the way of one,
takes the protocol definitions without a fault. What comes out is written down in full: every
type stays where it is, with the values of its defaults in place of how they were written; the
protocol types replace those of their names or come last; the protocol fields replace those of
their names at the query root or come last there.
-/

namespace Subgraph.Federation

open Build

def protocolFieldTypes (es : List String) : List Field := (protocolFields es).map Build.field

def anyType : NamedType := ⟨none, anyScalar, .scalar none, []⟩

def fieldSetType : NamedType := ⟨none, fieldSetScalar, .scalar none, []⟩

def serviceObject : NamedType :=
  ⟨none, serviceType, .object [] [⟨none, "sdl", [], .named "String", none, []⟩], []⟩

def entityType (es : List String) : NamedType := ⟨none, entityUnion, .union es, []⟩

def queryType (es : List String) : NamedType :=
  ⟨none, defaultQuery, .object [] (protocolFieldTypes es), []⟩

/-- The types that the protocol defines for a schema. -/
def protocolTypes (s : Schema) (es : List String) : List NamedType :=
  [anyType, serviceObject]
    ++ (if es.isEmpty then [] else [entityType es])
    ++ (if (s.type? fieldSetScalar).isNone then [fieldSetType] else [])
    ++ (if s.query.isNone then [queryType es] else [])

def keyType : DirectiveType :=
  ⟨none, keyDirective, [⟨none, "fields", .nonNull (.named fieldSetScalar), none, none, []⟩], true,
    typeLocations⟩

def extendsType : DirectiveType := ⟨none, extendsDirective, [], false, typeLocations⟩

/-- The directives that the protocol defines for a schema. -/
def protocolDirectives (s : Schema) : List DirectiveType :=
  (if (s.directive? keyDirective).isNone then [keyType] else [])
    ++ (if (s.directive? extendsDirective).isNone then [extendsType] else [])

/-- The shape of the query root with the protocol fields. -/
def grownShape (es : List String) : TypeShape → TypeShape
  | .object is fs => .object is (lastByName (·.name) (fs ++ protocolFieldTypes es))
  | shape => shape

/-- A type of the schema after the protocol definitions. -/
def grownType (s : Schema) (es : List String) (t : NamedType) : NamedType :=
  match (protocolTypes s es).find? (·.name == t.name) with
  | some u => u
  | none =>
    if s.query = some t.name then
      { t.evaluated s with shape := grownShape es (t.evaluated s).shape }
    else t.evaluated s

def grown (s : Schema) (es : List String) : Schema where
  description := s.description
  types := s.types.map (grownType s es)
    ++ (protocolTypes s es).filter fun u => !((s.types.map (·.name)).contains u.name)
  directives := lastByName (·.name) s.evaluated.directives ++ protocolDirectives s
  query := some (s.query.getD defaultQuery)
  mutation := s.mutation
  subscription := s.subscription

/-- The query root can take the protocol fields: it is an object type that the schema defines, or
there is none and none of its usual name. -/
inductive Growable (s : Schema) : Prop where
  | rooted (t : NamedType) (mem : t ∈ s.types) (root : s.query = some t.name)
      (object : t.shape.isObject = true) (defined : t.isDefined = true)
      (plain : isTypeName t.name = false)
  | rootless (query : s.query = none) (free : s.type? defaultQuery = none)

section Parts
variable (s : Schema) (es : List String)

/-- The extension of the query root, where there is one. -/
def rootExtensions : List (TypeDefinition Unit) :=
  match s.query with
  | some q => [queryBody q es]
  | none => []

def rootSchemaExtensions : List (SchemaDefinition Unit) :=
  match s.query with
  | some _ => []
  | none => [⟨(), [], [(.query, defaultQuery)]⟩]

theorem parts_append (a b : Document Unit) :
    parts (a ++ b) = ⟨(parts a).types ++ (parts b).types,
      (parts a).extensions ++ (parts b).extensions, (parts a).directives ++ (parts b).directives,
      (parts a).schemas ++ (parts b).schemas,
      (parts a).schemaExtensions ++ (parts b).schemaExtensions⟩ := by
  simp only [parts, List.filterMap_append]

variable {s}

theorem Growable.queryDefinitions_eq (h : Growable s) : queryDefinitions s es =
    match s.query with
    | some q => [.extendType (queryBody q es)]
    | none =>
      [.type none (queryBody defaultQuery es), .extendSchema ⟨(), [], [(.query, defaultQuery)]⟩] := by
  cases h with
  | rooted t _ hroot _ _ _ => rw [queryDefinitions, hroot]
  | rootless hquery hfree =>
    have hobject : s.isObject defaultQuery = false := by
      rw [Schema.isObject, Schema.shape?, hfree]
      rfl
    rw [queryDefinitions, hquery]
    simp only [hobject]
    rfl

/-- The definitions of types among the additions. -/
def typeDefinitions (s : Schema) (es : List String) :
    List (Option String × TypeDefinition Unit) :=
  [(none, ⟨(), anyScalar, [], .scalar⟩),
   (none, ⟨(), serviceType, [], .object [] [⟨none, "sdl", [], .named "String", []⟩]⟩)]
    ++ (if es.isEmpty then [] else [(none, ⟨(), entityUnion, [], .union es⟩)])
    ++ (if (s.type? fieldSetScalar).isNone then [(none, ⟨(), fieldSetScalar, [], .scalar⟩)] else [])
    ++ (if s.query.isNone then [(none, queryBody defaultQuery es)] else [])

/-- The definitions of directives among the additions. -/
def directiveDefinitions (s : Schema) : List (DirectiveDefinition Unit) :=
  (if (s.directive? keyDirective).isNone then
    [⟨(), none, keyDirective, [⟨none, "fields", .nonNull (.named fieldSetScalar), none, []⟩], true,
      typeLocations⟩] else [])
    ++ (if (s.directive? extendsDirective).isNone then
      [⟨(), none, extendsDirective, [], false, typeLocations⟩] else [])

theorem Growable.parts_eq (h : Growable s) : parts (additions s es) =
    ⟨typeDefinitions s es, rootExtensions s es, directiveDefinitions s, [],
      rootSchemaExtensions s⟩ := by
  rw [additions, h.queryDefinitions_eq]
  simp only [parts_append, typeDefinitions, rootExtensions, directiveDefinitions,
    rootSchemaExtensions]
  cases s.query <;> cases es.isEmpty <;> cases (s.type? fieldSetScalar).isNone <;>
    cases (s.directive? keyDirective).isNone <;> cases (s.directive? extendsDirective).isNone <;> rfl

theorem directiveDefinitions_map :
    (directiveDefinitions s).map directiveType = protocolDirectives s := by
  unfold directiveDefinitions protocolDirectives
  cases (s.directive? keyDirective).isNone <;> cases (s.directive? extendsDirective).isNone <;> rfl

theorem typeDefinitions_plain {d : Option String × TypeDefinition Unit}
    (hd : d ∈ typeDefinitions s es) :
    d.2.directives = [] ∧ (∀ vs, d.2.body ≠ .enum vs)
      ∧ (isTypeName d.2.name = true ∨ s.query = none) := by
  simp only [typeDefinitions, List.mem_append] at hd
  rcases hd with ((hd | hd) | hd) | hd
  · rcases List.mem_cons.mp hd with rfl | hd
    · exact ⟨rfl, by simp, .inl rfl⟩
    · rw [List.mem_singleton.mp hd]
      exact ⟨rfl, by simp, .inl rfl⟩
  · split at hd
    · cases hd
    · rw [List.mem_singleton.mp hd]
      exact ⟨rfl, by simp, .inl rfl⟩
  · split at hd
    · rw [List.mem_singleton.mp hd]
      exact ⟨rfl, by simp, .inl rfl⟩
    · cases hd
  · split at hd
    · next hnone =>
      rw [List.mem_singleton.mp hd]
      exact ⟨rfl, by simp [queryBody], .inr (Option.isNone_iff_eq_none.mp hnone)⟩
    · cases hd

theorem Growable.extensions_of_defined (h : Growable s) {d : Option String × TypeDefinition Unit}
    (hd : d ∈ typeDefinitions s es) :
    (rootExtensions s es).filter (·.name == d.2.name) = [] := by
  cases h with
  | rootless hquery hfree => rw [rootExtensions, hquery]; rfl
  | rooted t _ hroot _ _ hplain =>
    have hne : (t.name == d.2.name) = false := by
      refine beq_eq_false_iff_ne.mpr fun heq => ?_
      rcases (typeDefinitions_plain es hd).2.2 with hname | hquery
      · rw [heq, hname] at hplain
        cases hplain
      · rw [hquery] at hroot
        cases hroot
    rw [rootExtensions, hroot]
    simp [queryBody, hne]

theorem Growable.definedTypes_eq (h : Growable s) :
    ((typeDefinitions s es).map fun d => namedType (rootExtensions s es) d.1 d.2)
      = protocolTypes s es := by
  have hplain : ∀ d ∈ typeDefinitions s es,
      namedType (rootExtensions s es) d.1 d.2 = namedType [] d.1 d.2 := by
    intro d hd
    have hnone := h.extensions_of_defined es hd
    unfold namedType
    rw [hnone]
    rfl
  rw [List.map_congr_left hplain, typeDefinitions, protocolTypes]
  cases s.query <;> cases es.isEmpty <;> cases (s.type? fieldSetScalar).isNone <;> rfl

end Parts

section ProtocolTypes
variable (s : Schema) (es : List String)

theorem protocolTypes_names : (protocolTypes s es).map (·.name) =
    [anyScalar, serviceType] ++ (if es.isEmpty then [] else [entityUnion])
      ++ (if (s.type? fieldSetScalar).isNone then [fieldSetScalar] else [])
      ++ (if s.query.isNone then [defaultQuery] else []) := by
  unfold protocolTypes
  cases s.query <;> cases es.isEmpty <;> cases (s.type? fieldSetScalar).isNone <;> rfl

theorem protocolTypes_nodup : ((protocolTypes s es).map (·.name)).Nodup := by
  rw [protocolTypes_names]
  cases s.query.isNone <;> cases es.isEmpty <;> cases (s.type? fieldSetScalar).isNone <;> decide

theorem mem_protocolTypes {u : NamedType} (hu : u ∈ protocolTypes s es) :
    u = anyType ∨ u = serviceObject ∨ (u = entityType es ∧ es ≠ [])
      ∨ (u = fieldSetType ∧ s.type? fieldSetScalar = none)
      ∨ (u = queryType es ∧ s.query = none) := by
  simp only [protocolTypes, List.mem_append] at hu
  rcases hu with ((hu | hu) | hu) | hu
  · rcases List.mem_cons.mp hu with rfl | hu
    · exact .inl rfl
    · exact .inr (.inl (List.mem_singleton.mp hu))
  · split at hu
    · cases hu
    · next hes =>
      exact .inr (.inr (.inl ⟨List.mem_singleton.mp hu, fun h => hes (by rw [h]; rfl)⟩))
  · split at hu
    · next hnone =>
      exact .inr (.inr (.inr (.inl ⟨List.mem_singleton.mp hu, Option.isNone_iff_eq_none.mp hnone⟩)))
    · cases hu
  · split at hu
    · next hnone =>
      exact .inr (.inr (.inr (.inr ⟨List.mem_singleton.mp hu, Option.isNone_iff_eq_none.mp hnone⟩)))
    · cases hu

theorem protocolTypes_named {u : NamedType} (hu : u ∈ protocolTypes s es) :
    u.name.toList.all Text.isNameChar = true := by
  rcases mem_protocolTypes s es hu with rfl | rfl | ⟨rfl, -⟩ | ⟨rfl, -⟩ | ⟨rfl, -⟩
  all_goals
    simp only [anyType, serviceObject, entityType, fieldSetType, queryType]
    decide

theorem anyType_mem : anyType ∈ protocolTypes s es := by simp [protocolTypes]

theorem serviceObject_mem : serviceObject ∈ protocolTypes s es := by simp [protocolTypes]

theorem entityType_mem (h : es ≠ []) : entityType es ∈ protocolTypes s es := by
  simp [protocolTypes, h]

theorem protocolFieldTypes_eq : protocolFieldTypes es =
    ⟨none, serviceField, [], .nonNull (.named serviceType), none, []⟩
      :: if es.isEmpty then []
        else [⟨none, entitiesField,
          [⟨none, "representations", representationsType, none, none, []⟩],
          .nonNull (.list (.named entityUnion)), none, []⟩] := by
  unfold protocolFieldTypes protocolFields
  cases es.isEmpty <;> rfl

variable {es} in
theorem mem_protocolFieldTypes {f : Field} (hf : f ∈ protocolFieldTypes es) :
    f = Build.field serviceFieldDefinition ∨ es ≠ [] ∧ f = Build.field entitiesFieldDefinition := by
  unfold protocolFieldTypes protocolFields at hf
  rcases List.mem_cons.mp hf with rfl | hf
  · exact .inl rfl
  · split at hf
    · cases hf
    · next hes => exact .inr ⟨fun h => hes (List.isEmpty_iff.mpr h), List.mem_singleton.mp hf⟩

theorem protocolFieldTypes_distinct :
    ((protocolFieldTypes es).map (·.name)).Nodup
      ∧ ∀ f ∈ protocolFieldTypes es, (f.arguments.map (·.name)).Nodup := by
  rw [protocolFieldTypes_eq]
  cases es.isEmpty <;> simp [serviceField, entitiesField]

theorem protocolTypes_distinct {u : NamedType} (hu : u ∈ protocolTypes s es) :
    u.shape.Distinct := by
  rcases mem_protocolTypes s es hu with rfl | rfl | ⟨rfl, -⟩ | ⟨rfl, -⟩ | ⟨rfl, -⟩
  · trivial
  · simp [serviceObject, TypeShape.Distinct]
  · trivial
  · trivial
  · exact protocolFieldTypes_distinct es

end ProtocolTypes

section Lookup
variable (s : Schema) (es : List String)

theorem grownType_name (t : NamedType) : (grownType s es t).name = t.name := by
  unfold grownType
  cases h : (protocolTypes s es).find? (·.name == t.name) with
  | some u =>
    have hname := List.find?_some h
    exact eq_of_beq hname
  | none =>
    simp only
    split <;> rfl

theorem grown_names : (grown s es).types.map (·.name)
    = s.types.map (·.name) ++ ((protocolTypes s es).map (·.name)).filter
        fun n => !((s.types.map (·.name)).contains n) := by
  have hnames : (s.types.map (grownType s es)).map (·.name) = s.types.map (·.name) := by
    rw [List.map_map]
    exact List.map_congr_left fun t _ => grownType_name s es t
  rw [grown, List.map_append, hnames, List.filter_map]
  rfl

/-- A name leads to the protocol type of this name, or else to the type that the schema had. -/
theorem type?_grown (n : String) : (grown s es).type? n =
    match (protocolTypes s es).find? (·.name == n) with
    | some u => some u
    | none => (s.type? n).map (grownType s es) := by
  have hfirst : (s.types.map (grownType s es)).find? (·.name == n)
      = (s.type? n).map (grownType s es) :=
    find?_map_of_name (grownType_name s es) s.types n
  have happend : (grown s es).type? n = ((s.type? n).map (grownType s es)).or
      (((protocolTypes s es).filter fun u => !((s.types.map (·.name)).contains u.name)).find?
        (·.name == n)) := by
    rw [Schema.type?, grown, List.find?_append, hfirst]
  rw [happend]
  cases hs : s.type? n with
  | some t =>
    have hname : t.name = n := (Schema.mem_of_type? hs).2
    cases hp : (protocolTypes s es).find? (·.name == n) with
    | some u => simp only [Option.map_some, Option.some_or, grownType, hname, hp]
    | none => rfl
  | none =>
    have hmem : n ∉ s.types.map (·.name) := find?_eq_none_iff_not_mem.mp hs
    have hfilter : ((protocolTypes s es).filter fun u =>
          !((s.types.map (·.name)).contains u.name)).find? (·.name == n)
        = (protocolTypes s es).find? (·.name == n) := by
      rw [List.find?_filter]
      congr 1
      funext u
      by_cases hu : u.name = n
      · simp [hu, hmem]
      · simp [hu]
    rw [hfilter]
    cases (protocolTypes s es).find? (·.name == n) <;> rfl

theorem type?_grown_protocol {u : NamedType} (hu : u ∈ protocolTypes s es) :
    (grown s es).type? u.name = some u := by
  rw [type?_grown, find?_of_mem (protocolTypes_nodup s es) hu]

theorem grown_names_nodup (h : (s.types.map (·.name)).Nodup) :
    ((grown s es).types.map (·.name)).Nodup := by
  rw [grown_names]
  refine List.nodup_append.mpr ⟨h, (protocolTypes_nodup s es).filter _, fun n hn m hm heq => ?_⟩
  have hfree := (List.mem_filter.mp hm).2
  rw [← heq, List.contains_iff_mem.mpr hn] at hfree
  cases hfree

end Lookup

/-- Where a schema has types of the protocol already, they are of the kinds that the protocol
gives them. -/
structure ProtocolKinds (s : Schema) : Prop where
  kinds : ∀ es, ∀ u ∈ protocolTypes s es, ∀ shape, s.shape? u.name = some shape →
    shape.SameKind u.shape
  fieldSet : ∀ shape, s.shape? fieldSetScalar = some shape → shape.isInput = true

/-- Besides, the scalar for representations is the one that the protocol defines. -/
structure PlainKinds (s : Schema) : Prop extends ProtocolKinds s where
  any : ∀ shape, s.shape? anyScalar = some shape → shape = .scalar none

section Grown
variable {s : Schema} {es : List String}

theorem grownShape_kind (shape : TypeShape) : shape.SameKind (grownShape es shape) := by
  cases shape <;> exact ⟨rfl, rfl, rfl, rfl, rfl⟩

theorem grown_kind (hk : ProtocolKinds s) (n : String) (shape : TypeShape)
    (hs : s.shape? n = some shape) :
    ∃ shape', (grown s es).shape? n = some shape' ∧ shape.SameKind shape' := by
  obtain ⟨t, ht, rfl⟩ := Option.map_eq_some_iff.mp hs
  cases hp : (protocolTypes s es).find? (·.name == n) with
  | some u =>
    have hu : u ∈ protocolTypes s es := List.mem_of_find?_eq_some hp
    have hname : u.name = n := by simpa using List.find?_some hp
    refine ⟨u.shape, ?_, hk.kinds es u hu t.shape (hname ▸ hs)⟩
    rw [Schema.shape?, type?_grown, hp, Option.map_some]
  | none =>
    refine ⟨(grownType s es t).shape, ?_, ?_⟩
    · rw [Schema.shape?, type?_grown, hp, ht, Option.map_some, Option.map_some]
    · have hname : t.name = n := (Schema.mem_of_type? ht).2
      have hevaluated : t.shape.SameKind (t.evaluated s).shape := .of_mapInputs _ _
      rw [grownType, hname, hp]
      simp only
      split
      · exact hevaluated.trans (grownShape_kind _)
      · exact hevaluated

theorem grown_knows (hk : ProtocolKinds s) {n : String} {p : TypeShape → Bool}
    (hp : ∀ a b : TypeShape, a.SameKind b → p b = p a) (h : (s.shape? n).any p = true) :
    ((grown s es).shape? n).any p = true := by
  cases hs : s.shape? n with
  | none =>
    rw [hs] at h
    cases h
  | some shape =>
    rw [hs] at h
    obtain ⟨shape', hs', hsame⟩ := grown_kind hk n shape hs
    rw [hs', Option.any_some, hp shape shape' hsame]
    exact h

theorem grown_any_protocol {u : NamedType} (hu : u ∈ protocolTypes s es) {p : TypeShape → Bool}
    (hp : p u.shape = true) : ((grown s es).shape? u.name).any p = true := by
  rw [Schema.shape?, type?_grown_protocol s es hu]
  exact hp

theorem protocolFields_refer (s : Schema) (es : List String) :
    (∀ f ∈ protocolFieldTypes es, ((grown s es).shape? f.type.base).any TypeShape.isOutput = true
      ∧ HasReadableDeprecation f.applied)
    ∧ ∀ f ∈ protocolFieldTypes es, ∀ v ∈ f.arguments, v.Fits (grown s es) := by
  have hservice : ((grown s es).shape? serviceType).any TypeShape.isOutput = true :=
    grown_any_protocol (serviceObject_mem s es) rfl
  have hany : ((grown s es).shape? anyScalar).any TypeShape.isInput = true :=
    grown_any_protocol (anyType_mem s es) rfl
  have hentity (hes : es ≠ []) : ((grown s es).shape? entityUnion).any TypeShape.isOutput = true :=
    grown_any_protocol (entityType_mem s es hes) rfl
  refine ⟨fun f hf => ?_, fun f hf v hv => ?_⟩
  · rcases mem_protocolFieldTypes hf with rfl | ⟨hes, rfl⟩
    · exact ⟨hservice, rfl⟩
    · exact ⟨hentity hes, rfl⟩
  · rcases mem_protocolFieldTypes hf with rfl | ⟨-, rfl⟩
    · cases hv
    · rw [List.mem_singleton.mp hv]
      exact ⟨hany, rfl⟩

theorem protocolTypes_refer (hw : s.WellFormed) (hk : ProtocolKinds s)
    (hes : ∀ n ∈ es, s.isObject n = true) {u : NamedType} (hu : u ∈ protocolTypes s es) :
    u.shape.Refers (grown s es) := by
  have htext : ((grown s es).shape? "String").any TypeShape.isOutput = true :=
    grown_knows hk (fun _ _ h => h.output) hw.texts
  have hleaf : (TypeShape.scalar none).Refers (grown s es) :=
    ⟨by simp [TypeShape.interfaces], by simp [TypeShape.members], by simp [TypeShape.fields],
      by simp [TypeShape.inputs, TypeShape.fields]⟩
  rcases mem_protocolTypes s es hu with rfl | rfl | ⟨rfl, -⟩ | ⟨rfl, -⟩ | ⟨rfl, -⟩
  · exact hleaf
  · refine ⟨by simp [serviceObject, TypeShape.interfaces], by simp [serviceObject,
      TypeShape.members], fun f hf => ?_, by simp [serviceObject, TypeShape.inputs,
      TypeShape.fields]⟩
    rw [List.mem_singleton.mp hf]
    exact ⟨htext, rfl⟩
  · refine ⟨by simp [entityType, TypeShape.interfaces], fun n hn => ?_, by simp [entityType,
      TypeShape.fields], by simp [entityType, TypeShape.inputs, TypeShape.fields]⟩
    exact grown_knows hk (fun _ _ h => h.object) (hes n hn)
  · exact hleaf
  · obtain ⟨hfields, hargs⟩ := protocolFields_refer s es
    refine ⟨by simp [queryType, TypeShape.interfaces], by simp [queryType, TypeShape.members],
      hfields, fun v hv => ?_⟩
    obtain ⟨f, hf, hv⟩ := List.mem_flatMap.mp hv
    exact hargs f hf v hv

theorem grownShape_refers {shape : TypeShape} {fs : List Field} {is : List String}
    (hshape : shape = .object is fs) (h : shape.Refers (grown s es)) {gs : List Field}
    (hgs : ∀ f ∈ gs, f ∈ fs ++ protocolFieldTypes es) :
    (TypeShape.object is gs).Refers (grown s es) := by
  obtain ⟨hfields, hargs⟩ := protocolFields_refer s es
  subst hshape
  refine ⟨h.interfaces, h.members, fun f hf => ?_, fun v hv => ?_⟩
  · rcases List.mem_append.mp (hgs f hf) with hf | hf
    · exact h.fields f hf
    · exact hfields f hf
  · obtain ⟨f, hf, hv⟩ := List.mem_flatMap.mp hv
    rcases List.mem_append.mp (hgs f hf) with hf | hf
    · exact h.inputs v (List.mem_flatMap.mpr ⟨f, hf, hv⟩)
    · exact hargs f hf v hv

theorem grownType_refers (hw : s.WellFormed) (hk : ProtocolKinds s)
    (hes : ∀ n ∈ es, s.isObject n = true) {t : NamedType} (ht : t ∈ s.types) :
    (grownType s es t).shape.Refers (grown s es) := by
  have hevaluated : (t.evaluated s).shape.Refers (grown s es) :=
    ((hw.refers t ht).mono (grown_kind hk)).evaluated
  unfold grownType
  cases hp : (protocolTypes s es).find? (·.name == t.name) with
  | some u => exact protocolTypes_refer hw hk hes (List.mem_of_find?_eq_some hp)
  | none =>
    simp only
    split
    · cases hshape : (t.evaluated s).shape with
      | object is fs =>
        exact grownShape_refers hshape hevaluated fun f hf => mem_of_mem_lastByName hf
      | _ =>
        rw [hshape] at hevaluated
        exact hevaluated
    · exact hevaluated

theorem grownType_distinct (hw : s.WellFormed) {t : NamedType} (ht : t ∈ s.types) :
    (grownType s es t).shape.Distinct := by
  have hname : ∀ v : InputValue, (v.evaluated s).name = v.name := fun _ => rfl
  have hevaluated : (t.evaluated s).shape.Distinct := (hw.distinct t ht).mapInputs hname
  unfold grownType
  cases hp : (protocolTypes s es).find? (·.name == t.name) with
  | some u => exact protocolTypes_distinct s es (List.mem_of_find?_eq_some hp)
  | none =>
    simp only
    split
    · cases hshape : (t.evaluated s).shape with
      | object is fs =>
        rw [hshape] at hevaluated
        obtain ⟨hnames, hargs⟩ := protocolFieldTypes_distinct es
        refine ⟨lastByName_nodup, fun f hf => ?_⟩
        rcases List.mem_append.mp (mem_of_mem_lastByName hf) with hf | hf
        · exact hevaluated.2 f hf
        · exact hargs f hf
      | _ =>
        rw [hshape] at hevaluated
        exact hevaluated
    · exact hevaluated

theorem protocolDirectives_fit (hk : ProtocolKinds s) {d : DirectiveType}
    (hd : d ∈ protocolDirectives s) {v : InputValue} (hv : v ∈ d.arguments) :
    v.Fits (grown s es) := by
  have hfieldSet : ((grown s es).shape? fieldSetScalar).any TypeShape.isInput = true := by
    cases hs : s.type? fieldSetScalar with
    | none => exact grown_any_protocol (u := fieldSetType) (by simp [protocolTypes, hs]) rfl
    | some t =>
      have hshape : s.shape? fieldSetScalar = some t.shape := by rw [Schema.shape?, hs]; rfl
      refine grown_knows hk (fun _ _ h => h.input) ?_
      rw [hshape]
      exact hk.fieldSet t.shape hshape
  rcases List.mem_append.mp hd with hd | hd
  · split at hd
    · rw [List.mem_singleton.mp hd] at hv
      rw [List.mem_singleton.mp hv]
      exact ⟨hfieldSet, rfl⟩
    · cases hd
  · split at hd
    · rw [List.mem_singleton.mp hd] at hv
      cases hv
    · cases hd

theorem evaluatedDirectives_fit (hw : s.WellFormed) (hk : ProtocolKinds s) {d : DirectiveType}
    (hd : d ∈ s.evaluated.directives) {v : InputValue} (hv : v ∈ d.arguments) :
    v.Fits (grown s es) := by
  obtain ⟨d', hd', rfl⟩ := List.mem_map.mp hd
  obtain ⟨v', hv', rfl⟩ := List.mem_map.mp hv
  have hfits := hw.directives d' hd' v' hv'
  exact ⟨grown_knows hk (fun _ _ h => h.input) hfits.type, hfits.deprecation⟩

theorem grown_wellFormed (hw : s.WellFormed) (hk : ProtocolKinds s)
    (hes : ∀ n ∈ es, s.isObject n = true) : (grown s es).WellFormed where
  names := grown_names_nodup s es hw.names
  named := by
    intro t ht
    rcases List.mem_append.mp ht with ht | ht
    · obtain ⟨t', ht', rfl⟩ := List.mem_map.mp ht
      rw [grownType_name]
      exact hw.named t' ht'
    · exact protocolTypes_named s es (List.mem_of_mem_filter ht)
  roots := by
    intro k n hn
    -- Roots that there were stay; only the root for queries can be a new one.
    have hkept : ∀ m, s.root k = some m → m ∈ (grown s es).types.map (·.name) := by
      intro m hm
      rw [grown_names]
      exact List.mem_append_left _ (hw.roots k m hm)
    cases k with
    | query =>
      cases hq : s.query with
      | some q => exact hkept n (by rw [← hn]; simp [Schema.root, grown, hq])
      | none =>
        have hquery : queryType es ∈ protocolTypes s es := by simp [protocolTypes, hq]
        have hname : n = defaultQuery := by
          simpa [Schema.root, grown, hq] using hn.symm
        rw [hname]
        exact Schema.mem_names_of_any (p := fun _ => true) (grown_any_protocol hquery rfl)
    | mutation => exact hkept n hn
    | subscription => exact hkept n hn
  distinct := by
    intro t ht
    rcases List.mem_append.mp ht with ht | ht
    · obtain ⟨t', ht', rfl⟩ := List.mem_map.mp ht
      exact grownType_distinct hw ht'
    · exact protocolTypes_distinct s es (List.mem_of_mem_filter ht)
  refers := by
    intro t ht
    rcases List.mem_append.mp ht with ht | ht
    · obtain ⟨t', ht', rfl⟩ := List.mem_map.mp ht
      exact grownType_refers hw hk hes ht'
    · exact protocolTypes_refer hw hk hes (List.mem_of_mem_filter ht)
  directives := by
    intro d hd v hv
    rcases List.mem_append.mp hd with hd | hd
    · exact evaluatedDirectives_fit hw hk (mem_of_mem_lastByName hd) hv
    · exact protocolDirectives_fit hk hd hv
  introspection := by
    have hsome := hw.introspection
    rw [type?_grown]
    cases (protocolTypes s es).find? (·.name == "__Schema") with
    | some u => rfl
    | none => rw [Option.isSome_map, hsome]
  texts := grown_knows hk (fun _ _ h => h.output) hw.texts

end Grown

section Extend
variable {s : Schema} {es : List String}

/-- A type on its way into the grown schema, before repeated fields are settled. -/
def draftType (s : Schema) (es : List String) (t : NamedType) : NamedType :=
  if s.query = some t.name then
    { t.evaluated s with shape := addShape (t.evaluated s).shape (.object [] (protocolFieldTypes es)) }
  else t.evaluated s

def draftTypes (s : Schema) (es : List String) : List NamedType :=
  s.types.map (fun t => ((protocolTypes s es).find? (·.name == t.name)).getD (draftType s es t))
    ++ (protocolTypes s es).filter fun u => !((s.types.map (·.name)).contains u.name)

theorem Growable.root_defined (h : Growable s) (hw : s.WellFormed) {t : NamedType}
    (ht : t ∈ s.types) (hq : s.query = some t.name) :
    t.isDefined = true ∧ ∃ is fs, t.shape = .object is fs := by
  cases h with
  | rootless hquery _ => rw [hquery] at hq; cases hq
  | rooted u hu hroot hobject hdefined _ =>
    have hname : u.name = t.name := Option.some.inj (hroot.symm.trans hq)
    have heq : u = t := by
      have htype := Schema.type?_of_mem hw.names hu
      rw [hname, Schema.type?_of_mem hw.names ht] at htype
      exact (Option.some.inj htype).symm
    subst heq
    refine ⟨hdefined, ?_⟩
    cases hs : u.shape with
    | object is fs => exact ⟨is, fs, rfl⟩
    | _ => rw [hs] at hobject; cases hobject

theorem rootExtensions_of_ne {n : String} (h : s.query ≠ some n) :
    (rootExtensions s es).filter (·.name == n) = [] := by
  rw [rootExtensions]
  cases hquery : s.query with
  | none => rfl
  | some q =>
    have hne : (q == n) = false := by
      refine beq_eq_false_iff_ne.mpr fun heq => h ?_
      rw [hquery, heq]
    simp [queryBody, hne]

theorem Growable.existing_eq (h : Growable s) (hw : s.WellFormed) :
    (s.evaluated.types.map fun t =>
      if t.isDefined then ((rootExtensions s es).filter (·.name == t.name)).foldl extendExisting t
      else t) = s.types.map (draftType s es) := by
  have htypes : s.evaluated.types = s.types.map (NamedType.evaluated s) := rfl
  rw [htypes, List.map_map]
  refine List.map_congr_left fun t ht => ?_
  have hname : (t.evaluated s).name = t.name := rfl
  have hdefined : (t.evaluated s).isDefined = t.isDefined := rfl
  rw [Function.comp_apply, hname, hdefined, draftType]
  by_cases hq : s.query = some t.name
  · obtain ⟨htd, is, fs, hshape⟩ := h.root_defined hw ht hq
    rw [htd, if_pos rfl, if_pos hq, rootExtensions, hq]
    simp [queryBody, extendExisting, NamedType.evaluated, TypeShape.mapInputs, hshape, shape,
      addExtension, addShape, protocolFieldTypes]
  · rw [if_neg hq, rootExtensions_of_ne hq, List.foldl_nil, ite_self]

theorem settle_draftType (hw : s.WellFormed) {t : NamedType} (ht : t ∈ s.types) :
    settle (((protocolTypes s es).find? (·.name == t.name)).getD (draftType s es t))
      = grownType s es t := by
  have hname : ∀ v : InputValue, (v.evaluated s).name = v.name := fun _ => rfl
  have hdistinct : (t.evaluated s).shape.Distinct := (hw.distinct t ht).mapInputs hname
  unfold grownType draftType
  cases hp : (protocolTypes s es).find? (·.name == t.name) with
  | some u =>
    exact settle_of_distinct (protocolTypes_distinct s es (List.mem_of_find?_eq_some hp))
  | none =>
    simp only [Option.getD_none]
    split
    · cases hshape : (t.evaluated s).shape with
      | object is fs =>
        rw [hshape] at hdistinct
        have hfields : (fs ++ protocolFieldTypes es).map settleField = fs ++ protocolFieldTypes es := by
          refine (List.map_congr_left fun f hf => ?_).trans (List.map_id _)
          have hargs : (f.arguments.map (·.name)).Nodup := by
            rcases List.mem_append.mp hf with hf | hf
            · exact hdistinct.2 f hf
            · exact (protocolFieldTypes_distinct es).2 f hf
          rw [settleField, lastByName_of_nodup hargs, id]
        simp only [settle, addShape, grownShape, List.append_nil, hfields]
      | _ =>
        rw [hshape] at hdistinct
        exact settle_of_distinct hdistinct
    · exact settle_of_distinct hdistinct

theorem settle_draftTypes (hw : s.WellFormed) :
    (draftTypes s es).map settle = (grown s es).types := by
  rw [draftTypes, grown, List.map_append, List.map_map]
  congr 1
  · exact List.map_congr_left fun t ht => settle_draftType hw ht
  · refine (List.map_congr_left fun u hu => ?_).trans (List.map_id _)
    exact settle_of_distinct (protocolTypes_distinct s es (List.mem_of_mem_filter hu))

theorem ofTypes_settled_types (hw : s.WellFormed) (es : List String) : ∃ builtins,
    (Draft.ofTypes (draftTypes s es)).settled.types = (grown s es).types ++ builtins := by
  refine ⟨(Builtin.scalars ++ Builtin.introspection).filter fun t =>
    !(draftTypes s es).any (·.name == t.name), ?_⟩
  rw [← settle_draftTypes hw]
  rfl

theorem settled_shape? (hw : s.WellFormed) {n : String} {shape : TypeShape}
    (h : (grown s es).shape? n = some shape) :
    (Draft.ofTypes (draftTypes s es)).settled.shape? n = some shape := by
  obtain ⟨t, ht, rfl⟩ := Option.map_eq_some_iff.mp h
  obtain ⟨builtins, htypes⟩ := ofTypes_settled_types hw es
  have hfind : (Draft.ofTypes (draftTypes s es)).settled.type? n = some t := by
    rw [Schema.type?] at ht
    rw [Schema.type?, htypes, List.find?_append, ht, Option.some_or]
  rw [Schema.shape?, hfind, Option.map_some]

theorem refers_settled (hw : s.WellFormed) {shape : TypeShape} (h : shape.Refers (grown s es)) :
    shape.Refers (Draft.ofTypes (draftTypes s es)).settled :=
  h.mono fun _ sh hsh => ⟨sh, settled_shape? hw hsh, .refl sh⟩

theorem fits_settled (hw : s.WellFormed) {v : InputValue} (h : v.Fits (grown s es)) :
    v.Fits (Draft.ofTypes (draftTypes s es)).settled := by
  refine ⟨?_, h.deprecation⟩
  have htype := h.type
  cases hs : (grown s es).shape? v.type.base with
  | none =>
    rw [hs] at htype
    cases htype
  | some shape =>
    rw [hs] at htype
    rw [settled_shape? hw hs]
    exact htype

theorem draftType_refers (hw : s.WellFormed) (hk : ProtocolKinds s) {t : NamedType}
    (ht : t ∈ s.types) : (draftType s es t).shape.Refers (grown s es) := by
  have hrefers : (t.evaluated s).shape.Refers (grown s es) :=
    ((hw.refers t ht).mono (grown_kind hk)).evaluated
  unfold draftType
  split
  · cases hshape : (t.evaluated s).shape with
    | object is fs =>
      have hroot : (TypeShape.object is (fs ++ protocolFieldTypes es)).Refers (grown s es) :=
        grownShape_refers hshape hrefers fun _ hf => hf
      simpa only [addShape, List.append_nil] using hroot
    | _ =>
      rw [hshape] at hrefers
      exact hrefers
  · exact hrefers

theorem draft_ready (hw : s.WellFormed) (hk : ProtocolKinds s)
    (hes : ∀ n ∈ es, s.isObject n = true) : (Draft.ofTypes (draftTypes s es)).Ready := by
  have hprotocol : ∀ u ∈ protocolTypes s es, u.shape.Refers (grown s es) := fun u hu =>
    protocolTypes_refer hw hk hes hu
  refine Draft.ready_ofTypes fun t ht => refers_settled hw ?_
  rcases List.mem_append.mp ht with ht | ht
  · obtain ⟨t', ht', rfl⟩ := List.mem_map.mp ht
    cases hp : (protocolTypes s es).find? (·.name == t'.name) with
    | some u => exact hprotocol u (List.mem_of_find?_eq_some hp)
    | none => exact draftType_refers hw hk ht'
  · exact hprotocol t (List.mem_of_mem_filter ht)

theorem draftType_name (t : NamedType) : (draftType s es t).name = t.name := by
  unfold draftType
  split <;> rfl

theorem lastByName_drafts (hw : s.WellFormed) (es : List String) :
    lastByName (·.name) (s.types.map (draftType s es) ++ protocolTypes s es) = draftTypes s es := by
  have hnames : (s.types.map (draftType s es)).map (·.name) = s.types.map (·.name) := by
    rw [List.map_map]
    exact List.map_congr_left fun t _ => draftType_name t
  have hnodup : ((s.types.map (draftType s es)).map (·.name)).Nodup := by
    rw [hnames]
    exact hw.names
  rw [lastByName_append hnodup (protocolTypes_nodup s es), hnames, List.map_map, draftTypes]
  simp only [Function.comp_def, draftType_name]

theorem extensionFault_nil (t : NamedType) : extensionFault t [] = .ok () := by
  unfold extensionFault
  cases t.shape <;> rfl

theorem Growable.extensions_sound (h : Growable s) (hw : s.WellFormed) (es : List String) :
    ∀ t ∈ s.evaluated.types.filter (·.isDefined),
      extensionFault t ((rootExtensions s es).filter (·.name == t.name)) = .ok () := by
  intro t ht
  obtain ⟨u, hu, rfl⟩ := List.mem_map.mp (List.mem_of_mem_filter ht)
  by_cases hq : s.query = some u.name
  · obtain ⟨-, is, fs, hshape⟩ := h.root_defined hw hu hq
    have hextension : (rootExtensions s es).filter (·.name == u.name) = [queryBody u.name es] := by
      rw [rootExtensions, hq]
      simp [queryBody]
    rw [hextension, extensionFault, hshape]
    rfl
  · rw [rootExtensions_of_ne hq]
    exact extensionFault_nil _

theorem Growable.definitions_sound (h : Growable s) :
    ∀ d ∈ typeDefinitions s es, definitionFault (rootExtensions s es) d.2 = .ok () := by
  intro d hd
  have hnone := h.extensions_of_defined es hd
  obtain ⟨hdirectives, hbody, -⟩ := typeDefinitions_plain es hd
  unfold definitionFault
  rw [hnone]
  cases hb : d.2.body with
  | enum vs => exact absurd hb (hbody vs)
  | scalar => rw [hdirectives]; rfl
  | _ => rfl

theorem forM_ok {α ε : Type} {xs : List α} {f : α → Except ε Unit} (h : ∀ x ∈ xs, f x = .ok ()) :
    xs.forM f = .ok () := by
  induction xs with
  | nil => rfl
  | cons x xs ih =>
    show (f x >>= fun _ => xs.forM f) = .ok ()
    rw [h x List.mem_cons_self]
    exact ih fun y hy => h y (List.mem_cons_of_mem x hy)

theorem Growable.operations_known (hw : s.WellFormed) :
    ∀ o ∈ (rootSchemaExtensions s).flatMap (·.operations),
      (Draft.ofTypes (draftTypes s es)).isKnown o.2 = true := by
  intro o ho
  unfold rootSchemaExtensions at ho
  cases hq : s.query with
  | some q => rw [hq] at ho; cases ho
  | none =>
    rw [hq] at ho
    have hroot : o = (.query, defaultQuery) := by simpa using ho
    have hquery : queryType es ∈ protocolTypes s es := by simp [protocolTypes, hq]
    have htype : (grown s es).type? defaultQuery = some (queryType es) :=
      type?_grown_protocol s es hquery
    have hshape : (grown s es).shape? defaultQuery = some (queryType es).shape := by
      rw [Schema.shape?, htype, Option.map_some]
    rw [hroot, Draft.isKnown, settled_shape? hw hshape]
    rfl

theorem drafts_resolve (hw : s.WellFormed) (hk : ProtocolKinds s)
    (hes : ∀ n ∈ es, s.isObject n = true) :
    (Draft.ofTypes (draftTypes s es)).resolve
      ((s.evaluated.directives.filter (!·.isSpecified)).flatMap (·.arguments)
        ++ (directiveDefinitions s).flatMap (·.arguments.map inputValue)) = .ok () := by
  refine Draft.resolve_ok (draft_ready hw hk hes) fun v hv => ?_
  rcases List.mem_append.mp hv with hv | hv
  · obtain ⟨d, hd, hv⟩ := List.mem_flatMap.mp hv
    exact fits_settled hw (evaluatedDirectives_fit hw hk (List.mem_of_mem_filter hd) hv)
  · obtain ⟨d, hd, hv⟩ := List.mem_flatMap.mp hv
    have hdirective : directiveType d ∈ protocolDirectives s := by
      rw [← directiveDefinitions_map]
      exact List.mem_map_of_mem hd
    have hargument : v ∈ (directiveType d).arguments := by
      unfold directiveDefinitions at hd
      rcases List.mem_append.mp hd with hd | hd
      · split at hd
        · rw [List.mem_singleton.mp hd] at hv ⊢
          exact hv
        · cases hd
      · split at hd
        · rw [List.mem_singleton.mp hd] at hv ⊢
          exact hv
        · cases hd
    exact fits_settled hw (protocolDirectives_fit hk hdirective hargument)

theorem duplicate?_evaluated : duplicate? s.evaluated.directives = duplicate? s.directives := by
  have hbases : ∀ ds : List DirectiveType,
      ((ds.map fun d => { d with arguments := d.arguments.map (InputValue.evaluated s) }).filter
          (·.isSpecified)).flatMap (fun d => d.arguments.map (·.type.base))
        = (ds.filter (·.isSpecified)).flatMap fun d => d.arguments.map (·.type.base) := by
    intro ds
    rw [List.filter_map, List.flatMap_map]
    refine flatMap_eq_of_mem fun d _ => ?_
    rw [List.map_map]
    rfl
  unfold duplicate?
  rw [Schema.evaluated, hbases]

theorem add_additions (hw : s.WellFormed) (hk : ProtocolKinds s) (hg : Growable s)
    (hes : ∀ n ∈ es, s.isObject n = true) (hspecified : duplicate? s.directives = none) :
    s.add (additions s es) = .ok (grown s es) := by
  have hextensions : ((s.evaluated.types.filter (·.isDefined)).forM fun t =>
      extensionFault t ((rootExtensions s es).filter (·.name == t.name))) = .ok () :=
    forM_ok (hg.extensions_sound hw es)
  have hdefinitions : (((typeDefinitions s es).filter fun d => (Builtin.type? d.2.name).isNone).forM
      fun d => definitionFault (rootExtensions s es) d.2) = .ok () :=
    forM_ok fun d hd => hg.definitions_sound d (List.mem_of_mem_filter hd)
  have htypes := lastByName_drafts hw es
  rw [← hg.existing_eq hw, ← hg.definedTypes_eq] at htypes
  have hoperations : ((rootSchemaExtensions s).flatMap (·.operations)).forM (fun o =>
      if (Draft.ofTypes (draftTypes s es)).isKnown o.2 then pure () else throw (.unknownType o.2))
      = (.ok () : Except BuildError Unit) :=
    forM_ok fun o ho => by rw [Growable.operations_known hw o ho]; rfl
  have hdirectives : duplicate? s.evaluated.directives = none :=
    duplicate?_evaluated.trans hspecified
  unfold Schema.add
  simp only [hg.parts_eq es, hextensions, hdefinitions, htypes, List.getLast?_nil, Option.map_none,
    Option.getD_none, List.nil_append, hoperations, drafts_resolve hw hk hes, hdirectives]
  cases hq : s.query with
  | some q =>
    have hroots : rootSchemaExtensions s = [] := by rw [rootSchemaExtensions, hq]
    rw [settle_draftTypes hw, directiveDefinitions_map, hroots, grown, Schema.evaluated, hq]
    rfl
  | none =>
    have hroots : rootSchemaExtensions s = [⟨(), [], [(.query, defaultQuery)]⟩] := by
      rw [rootSchemaExtensions, hq]
    rw [settle_draftTypes hw, directiveDefinitions_map, hroots, grown, Schema.evaluated, hq]
    rfl

/-- The protocol definitions extend a schema to the grown one. -/
theorem extend_additions (hw : s.WellFormed) (hk : ProtocolKinds s) (hg : Growable s)
    (hes : ∀ n ∈ es, s.isObject n = true) (hspecified : duplicate? s.directives = none) :
    s.extend (additions s es) = .ok (grown s es) := by
  rw [Schema.extend, add_additions hw hk hg hes hspecified]
  show Except.ok (grown s es).placeBuiltins = _
  rw [(grown_wellFormed hw hk hes).placeBuiltins]

end Extend

end Subgraph.Federation
