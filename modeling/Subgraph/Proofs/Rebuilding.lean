import Subgraph.Proofs.BuiltSchema
import Subgraph.Proofs.EchoedTypes

/-!
# The schema of an SDL

From the document of an SDL a schema can be built: the types and directives that the SDL shows, with the
built-in types that they use, and the roots of the schema definition, or those with the usual names where
there is none.
-/

namespace Subgraph.Federation
open Build

/-- What makes the SDL of a schema readable: every name can be written and stands for one thing, every
reference leads to a type that fits, and a default that is a value has the type of its place. -/
structure IsReadable (s : Schema) : Prop where
  names : (s.types.map (·.name)).Nodup
  builtin : ∀ t ∈ s.types, isBuiltinName t.name = true → Builtin.type? t.name = some t
  roots : ∀ k n, s.root k = some n → n ∈ s.types.map (·.name) ∨ isBuiltinName n = true
  distinct : ∀ t ∈ serviceTypes s, t.shape.Distinct
  refers : ∀ t ∈ serviceTypes s, t.shape.Refers s
  arguments : ∀ d ∈ serviceDirectives s, (d.arguments.map (·.name)).Nodup ∧ ∀ v ∈ d.arguments, v.Fits s
  typed : ∀ v ∈ shownInputs s, ∀ d, v.default? = some (.value d) → d.HasType s v.type
  described : s.description.isSome = true → rootsOf s ≠ []
  legible : IsLegible s

section Echo
variable (s : Schema) (c : Classification)

/-- What the document of an SDL defines. -/
def added : Schema where
  description := (schemaSource s).bind fun _ => s.description
  types := (serviceTypes s).map (echoType s c)
  directives := (serviceDirectives s).map (echoDirective s)
  query := (schemaSource s).bind fun _ => s.query
  mutation := (schemaSource s).bind fun _ => s.mutation
  subscription := (schemaSource s).bind fun _ => s.subscription

/-- The root that a reader of an SDL takes: one of the schema definition, or else the type of the usual
name. -/
def takenRoot (k : OperationKind) : Option String :=
  if (schemaSource s).isSome then s.root k
  else if ((added s c).type? (Schema.defaultRoot k)).isSome then some (Schema.defaultRoot k)
  else none

/-- The schema of an SDL. -/
def echo : Schema :=
  Schema.placeBuiltins { added s c with
    directives := (added s c).directives ++ Builtin.directives.filter fun d =>
      ((added s c).directive? d.name).isNone
    query := takenRoot s c .query
    mutation := takenRoot s c .mutation
    subscription := takenRoot s c .subscription }

end Echo

section Building
variable {s : Schema} (c : Classification)

theorem parts_source : parts (source s c) = {
    types := (serviceTypes s).map fun t => (t.description, typeSource s c t)
    extensions := []
    directives := (serviceDirectives s).map (directiveSource s)
    schemas := ((schemaSource s).map fun d => (s.description, d)).toList
    schemaExtensions := [] } := by
  unfold parts source
  congr 1
  all_goals cases schemaSource s <;> simp [List.filterMap_map]

theorem namedType_typeSource {t : NamedType} (ht : t ∈ serviceTypes s) :
    namedType [] t.description (typeSource s c t) = echoType s c t := by
  have hdefined := (mem_serviceTypes.mp ht).2.1
  have hnone : Builtin.type? (typeSource s c t).name = none := by
    rw [Option.eq_none_iff_forall_ne_some]
    intro b hb
    have hbuiltin := (Builtin.type?_name hb).2
    rw [NamedType.isDefined] at hdefined
    rw [show (typeSource s c t).name = t.name from rfl] at hbuiltin
    rw [hbuiltin] at hdefined
    cases hdefined
  unfold namedType
  rw [hnone]
  simp only [List.filter_nil, List.foldl_nil, shape_typeSource]
  rfl

theorem rootOf_rootsOf (k : OperationKind) : rootOf k (rootsOf s) none = s.root k := by
  unfold rootOf rootsOf
  cases hq : s.root .query <;> cases hm : s.root .mutation <;> cases hu : s.root .subscription <;> cases k <;>
    simp [hq, hm, hu]

theorem names_added : (added s c).types.map (·.name) = (serviceTypes s).map (·.name) := by
  rw [added, List.map_map]
  rfl

theorem serviceNames_nodup (hs : IsReadable s) : ((serviceTypes s).map (·.name)).Nodup :=
  hs.names.sublist (List.filter_sublist.map _)

theorem settle_echoType (hs : IsReadable s) {t : NamedType} (ht : t ∈ serviceTypes s) :
    settle (echoType s c t) = echoType s c t :=
  settle_of_distinct (distinct_echoShape (hs.distinct t ht))

theorem settle_added (hs : IsReadable s) : (added s c).types.map settle = (added s c).types := by
  rw [added, List.map_map]
  exact List.map_congr_left fun t ht => settle_echoType c hs ht

theorem service_or_builtin (hs : IsReadable s) (hplain : ∀ n ∈ typeNames, (s.type? n).isNone = true)
    {t : NamedType} (ht : t ∈ s.types) : t ∈ serviceTypes s ∨ Builtin.type? t.name = some t := by
  cases hbuiltin : isBuiltinName t.name with
  | true => exact .inr (hs.builtin t ht hbuiltin)
  | false =>
    refine .inl (mem_serviceTypes.mpr ⟨ht, by rw [NamedType.isDefined, hbuiltin]; rfl, ?_⟩)
    rw [Bool.eq_false_iff]
    intro hname
    have hnone := hplain t.name (List.contains_iff_mem.mp hname)
    rw [Schema.type?_of_mem hs.names ht] at hnone
    cases hnone

theorem service_not_builtin {t : NamedType} (ht : t ∈ serviceTypes s) : isBuiltinName t.name = false := by
  have hdefined := (mem_serviceTypes.mp ht).2.1
  rwa [NamedType.isDefined, Bool.not_eq_true'] at hdefined

theorem settled_types (hs : IsReadable s) : (Draft.ofTypes (added s c).types).settled.types
    = (added s c).types ++ (Builtin.scalars ++ Builtin.introspection).filter fun u =>
      !(added s c).types.any (·.name == u.name) := by
  rw [Draft.ofTypes]
  simp only [settle_added c hs]

theorem settled_builtin (hs : IsReadable s) {n : String} {t : NamedType} (h : Builtin.type? n = some t) :
    (Draft.ofTypes (added s c).types).settled.shape? n = some t.shape := by
  have hname := (Builtin.type?_name h).2
  have hother : ∀ u ∈ (added s c).types, u.name ≠ n := by
    intro u hu heq
    obtain ⟨v, hv, rfl⟩ := List.mem_map.mp hu
    have hv' := service_not_builtin hv
    rw [show v.name = n from heq, hname] at hv'
    cases hv'
  have hnone : (added s c).types.find? (·.name == n) = none :=
    List.find?_eq_none.mpr fun u hu heq => hother u hu (eq_of_beq heq)
  have hfree : ((added s c).types.any (·.name == n)) = false :=
    List.any_eq_false.mpr fun u hu heq => hother u hu (eq_of_beq heq)
  have hfind : ((Builtin.scalars ++ Builtin.introspection).filter fun u =>
      !(added s c).types.any (·.name == u.name)).find? (·.name == n) = some t := by
    rw [List.find?_filter, ← h, Builtin.type?]
    refine find?_eq_of_mem fun u _ => ?_
    cases heq : u.name == n with
    | false => simp
    | true => simp [eq_of_beq heq, hfree]
  rw [Schema.shape?, Schema.type?, settled_types c hs, List.find?_append, hnone, Option.none_or, hfind,
    Option.map_some]

section Draft
variable (hs : IsReadable s) (hplain : ∀ n ∈ typeNames, (s.type? n).isNone = true)
include hs hplain

theorem settled_echo {n : String} {sh : TypeShape} (h : s.shape? n = some sh) : ∃ sh',
    (Draft.ofTypes (added s c).types).settled.shape? n = some sh' ∧ sh.SameKind sh' := by
  obtain ⟨t, ht, rfl, rfl⟩ := Schema.mem_of_shape? h
  rcases service_or_builtin hs hplain ht with hservice | hbuiltin
  · have hmem : echoType s c t ∈ (added s c).types := List.mem_map_of_mem hservice
    have hfind : (added s c).types.find? (·.name == t.name) = some (echoType s c t) :=
      find?_of_mem (by rw [names_added]; exact serviceNames_nodup hs) hmem
    rw [Schema.shape?, Schema.type?, settled_types c hs, List.find?_append, hfind]
    exact ⟨_, rfl, kind_echoShape t.shape⟩
  · exact ⟨t.shape, settled_builtin c hs hbuiltin, .refl t.shape⟩

theorem fits_settled_echo {v : InputValue} (h : v.Fits s) :
    v.Fits (Draft.ofTypes (added s c).types).settled := by
  refine ⟨?_, h.deprecation⟩
  have htype := h.type
  cases hshape : s.shape? v.type.base with
  | none =>
    rw [hshape] at htype
    cases htype
  | some sh =>
    obtain ⟨sh', hsh', hkind⟩ := settled_echo c hs hplain hshape
    rw [hshape, Option.any_some] at htype
    rw [hsh', Option.any_some, hkind.input]
    exact htype

theorem ready_echo : (Draft.ofTypes (added s c).types).Ready := by
  refine Draft.ready_ofTypes fun u hu => ?_
  obtain ⟨t, ht, rfl⟩ := List.mem_map.mp hu
  exact refers_echoShape ((hs.refers t ht).mono fun n sh hsh =>
    settled_echo c hs hplain hsh)

theorem echo_resolves : (Draft.ofTypes (added s c).types).resolve
    (((serviceDirectives s).map (directiveSource s)).flatMap (·.arguments.map inputValue)) = .ok () := by
  refine Draft.resolve_ok (ready_echo c hs hplain) fun v hv => ?_
  obtain ⟨d, hd, hv⟩ := List.mem_flatMap.mp hv
  obtain ⟨e, he, rfl⟩ := List.mem_map.mp hd
  exact fits_echoArguments (fun w hw => fits_settled_echo c hs hplain ((hs.arguments e he).2 w hw)) v hv

theorem roots_known {o : OperationKind × String} (ho : o ∈ rootsOf s) :
    (Draft.ofTypes (added s c).types).isKnown o.2 = true := by
  rw [Draft.isKnown]
  rcases hs.roots o.1 o.2 ((mem_rootsOf s).mp ho) with hmem | hbuiltin
  · obtain ⟨t, ht, hname⟩ := List.mem_map.mp hmem
    have hshape := Schema.shape?_of_mem hs.names ht
    rw [hname] at hshape
    obtain ⟨sh', hsh', -⟩ := settled_echo c hs hplain hshape
    rw [hsh']
    rfl
  · obtain ⟨t, ht⟩ := Builtin.type?_of_name hbuiltin
    rw [settled_builtin c hs ht]
    rfl

end Draft

theorem definitionFault_source (t : NamedType) : definitionFault [] (typeSource s c t) = .ok () := by
  have hvalues : ∀ vs : List EnumValue,
      (vs.map enumSource).forM (fun v => sound (deprecation v.directives)) = .ok () := by
    intro vs
    refine forM_ok fun v hv => ?_
    obtain ⟨w, -, rfl⟩ := List.mem_map.mp hv
    rw [enumSource, deprecation_shown _ (restored_ne (by decide) _)]
    rfl
  have hone : ∀ (ds : List Applied) (vs : List EnumValue),
      enumFault [⟨(), t.name, ds, .enum (vs.map enumSource)⟩] = .ok () := by
    intro ds vs
    refine forM_ok fun e he => ?_
    rw [List.mem_singleton.mp he]
    exact hvalues vs
  unfold definitionFault typeSource
  cases hs : t.shape with
  | enum vs =>
    simp only [bodySource, List.filter_nil, List.any_nil, Bool.false_eq_true, if_false, hone]
    rfl
  | scalar url =>
    have hread := specifiedBy_shown url (typeDirectives_ne (n := "specifiedBy") (by decide) c t)
    simp only [bodySource, List.filter_nil, List.any_nil, Bool.false_eq_true, if_false, hread, sound]
    rfl
  | _ => rfl

theorem add_source (hs : IsReadable s) (hplain : ∀ n ∈ typeNames, (s.type? n).isNone = true) :
    Schema.empty.add (source s c) = .ok (added s c) := by
  have hdefined : ((serviceTypes s).map fun t => (t.description, typeSource s c t)).map
      (fun d => namedType [] d.1 d.2) = (added s c).types := by
    rw [List.map_map, added]
    exact List.map_congr_left fun t ht => namedType_typeSource c ht
  have hfaults : (((serviceTypes s).map fun t => (t.description, typeSource s c t)).filter
      (fun d => (Builtin.type? d.2.name).isNone)).forM (fun d => definitionFault [] d.2) = .ok () := by
    refine forM_ok fun d hd => ?_
    obtain ⟨t, -, rfl⟩ := List.mem_map.mp (List.mem_of_mem_filter hd)
    exact definitionFault_source c t
  have hnodup : ((added s c).types.map (·.name)).Nodup := by
    rw [names_added]
    exact serviceNames_nodup hs
  have hoperations : ∀ os : List (OperationKind × String), (∀ o ∈ os, o ∈ rootsOf s) →
      os.forM (fun o => if (Draft.ofTypes (added s c).types).isKnown o.2 then pure ()
          else throw (.unknownType o.2))
        = (.ok () : Except BuildError Unit) := by
    intro os hos
    refine forM_ok fun o ho => ?_
    rw [roots_known c hs hplain (hos o ho)]
    rfl
  have hevaluated : Schema.empty.evaluated = Schema.empty := rfl
  have hresolve := echo_resolves c hs hplain
  rw [List.flatMap_map] at hresolve
  have htypes : lastByName (·.name) (added s c).types = (added s c).types := lastByName_of_nodup hnodup
  unfold Schema.add
  simp only [parts_source c, hevaluated, hdefined, hfaults, List.flatMap_map, List.flatMap_nil,
    List.append_nil, show Schema.empty.types = [] from rfl, show Schema.empty.directives = [] from rfl,
    List.map_nil, List.nil_append, List.filter_nil, htypes, hresolve, settle_added c hs]
  cases hschema : schemaSource s with
  | none =>
    simp only [added, hschema, List.map_map]
    rfl
  | some d =>
    have hd : d = ⟨(), [], rootsOf s⟩ := by
      unfold schemaSource at hschema
      split at hschema
      · cases hschema
      · exact (Option.some.inj hschema).symm
    subst hd
    simp only [added, hschema, List.map_map, Option.map_some, Option.toList_some, List.getLast?_singleton,
      Option.getD_some, Option.bind_some, show Schema.empty.query = none from rfl,
      show Schema.empty.mutation = none from rfl, show Schema.empty.subscription = none from rfl,
      rootOf_rootsOf,
      show Schema.empty.description = none from rfl, Option.or_none]
    have hknown := hoperations (rootsOf s) fun _ ho => ho
    rw [added] at hknown
    rw [hknown]
    rfl

/-- From the document of an SDL a schema is built. -/
theorem build_source (hs : IsReadable s) (hplain : ∀ n ∈ typeNames, (s.type? n).isNone = true) :
    Schema.build (source s c) = .ok (echo s c) := by
  have hschemas : (parts (source s c)).schemas.isEmpty = (schemaSource s).isNone := by
    rw [parts_source]
    cases schemaSource s <;> rfl
  have hroot : ∀ k, (if (!!(parts (source s c)).schemas.isEmpty
      && ((added s c).type? (Schema.defaultRoot k)).isSome) = true then some (Schema.defaultRoot k)
      else (added s c).root k) = takenRoot s c k := by
    intro k
    rw [hschemas, takenRoot]
    cases hschema : schemaSource s with
    | none => cases k <;> simp [added, Schema.root, hschema]
    | some d => cases k <;> simp [added, Schema.root, hschema]
  unfold Schema.build
  rw [add_source c hs hplain]
  refine congrArg Except.ok ?_
  rw [echo, ← hroot .query, ← hroot .mutation, ← hroot .subscription]
  rfl

end Building
end Subgraph.Federation
