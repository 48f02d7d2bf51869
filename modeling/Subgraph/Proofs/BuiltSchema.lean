import Subgraph.Proofs.SdlQuery
import Subgraph.Proofs.Transforming
import Subgraph.Schema.Read

/-!
# Schemas that are built

A schema that is built from a document has types of different names, the built-in types under their
own names, and roots that it knows. So if it takes the protocol definitions and its query root gets
the field for the service, this root is an object type of its own, and the query for the SDL finds all
that it asks for.
-/

namespace Subgraph

namespace Build

theorem Builtin.type?_of_name {n : String} (h : isBuiltinName n = true) :
    ∃ t, Builtin.type? n = some t := by
  have hall : ∀ n ∈ standardNames, (Builtin.type? n).isSome = true := by decide +kernel
  exact Option.isSome_iff_exists.mp (hall n (List.contains_iff_mem.mp h))

section Placing
variable {types : List NamedType} {own : String → Bool} {n : String}

theorem mem_names_concat {ts : List NamedType} (hn : n ∈ ts.map (·.name)) (t : NamedType) :
    n ∈ (ts ++ [t]).map (·.name) := by
  rw [List.map_append]
  exact List.mem_append_left _ hn

theorem mem_foldl_addBuiltin (fuel : Nat) (names : List String) {ts : List NamedType}
    (hn : n ∈ ts.map (·.name)) :
    n ∈ (names.foldl (addBuiltin own fuel) ts).map (·.name) :=
  foldl_addBuiltin_induction (P := fun ts => n ∈ ts.map (·.name))
    (fun _ b h _ _ _ => mem_names_concat h b) fuel hn names

theorem mem_foldl_addBuiltin_of_mem (hown : own n = false) (hbuiltin : isBuiltinName n = true)
    {names : List String} (hn : n ∈ names) (ts : List NamedType) :
    n ∈ (names.foldl (addBuiltin own builtinDepth) ts).map (·.name) := by
  have hself : ∀ ts, n ∈ (addBuiltin own builtinDepth ts n).map (·.name) := by
    intro ts
    obtain ⟨t, ht⟩ := Builtin.type?_of_name hbuiltin
    rw [show builtinDepth = 12 + 1 from rfl, addBuiltin, hown, Bool.false_or, ht]
    split
    · next hany => exact any_name_iff.mp hany
    · refine mem_foldl_addBuiltin 12 _ ?_
      rw [List.map_append]
      exact List.mem_append_right _ (by simp [(Builtin.type?_name ht).1])
  induction names generalizing ts with
  | nil => cases hn
  | cons m names ih =>
    rcases List.mem_cons.mp hn with rfl | hn
    · exact mem_foldl_addBuiltin _ names (hself ts)
    · exact ih hn _

theorem mem_withBuiltins (hnodup : (types.map (·.name)).Nodup) (directives : List DirectiveType)
    {t : NamedType} (ht : t ∈ types) (hn : n ∈ references t) (hbuiltin : isBuiltinName n = true) :
    n ∈ (withBuiltins types directives).map (·.name) := by
  cases hown : types.any (·.name == n) with
  | true =>
    obtain ⟨u, hu, rfl⟩ := List.mem_map.mp (any_name_iff.mp hown)
    exact List.mem_map_of_mem ((withBuiltins_placed hnodup directives).kept u hu)
  | false =>
    have hrest : ∀ (ts placed : List NamedType), n ∈ placed.map (·.name) →
        n ∈ (ts.foldl (fun ts t => (references t).foldl
          (addBuiltin (fun m => types.any (·.name == m)) builtinDepth) (ts ++ [t])) placed).map
            (·.name) :=
      fun _ _ h => List.foldlRecOn _ _ (motive := fun placed : List NamedType =>
        n ∈ placed.map (·.name)) h fun _ h u _ => mem_foldl_addBuiltin _ _ (mem_names_concat h u)
    have hplaced : ∀ (ts placed : List NamedType), t ∈ ts →
        n ∈ (ts.foldl (fun ts t => (references t).foldl
          (addBuiltin (fun m => types.any (·.name == m)) builtinDepth) (ts ++ [t])) placed).map
            (·.name) := by
      intro ts
      induction ts with
      | nil => exact fun _ h => absurd h List.not_mem_nil
      | cons u ts ih =>
        intro placed h
        rcases List.mem_cons.mp h with rfl | h
        · exact hrest ts _ (mem_foldl_addBuiltin_of_mem hown hbuiltin hn _)
        · exact ih _ h
    exact mem_foldl_addBuiltin _ _ (mem_foldl_addBuiltin _ _ (hplaced types [] ht))

end Placing

theorem add_known {s s' : Schema} {doc : Document Unit} (h : s.add doc = .ok s')
    {o : OperationKind × String}
    (ho : o ∈ namedRoots doc) :
    o.2 ∈ s'.types.map (·.name) ∨ isBuiltinName o.2 = true := by
  have hknown := (adds_of_ok h).roots o ho
  rw [Draft.isKnown, Schema.shape?, Option.isSome_map, Draft.ofTypes, Schema.type?,
    List.find?_append, Option.isSome_or, Bool.or_eq_true, List.find?_isSome, List.find?_isSome]
    at hknown
  rcases hknown with ⟨t, ht, hname⟩ | ⟨t, ht, hname⟩
  · rw [(add_types h).1, ← eq_of_beq hname]
    exact .inl (List.mem_map_of_mem ht)
  · rw [← eq_of_beq hname]
    have hall : ((Builtin.scalars ++ Builtin.introspection).all fun t => isBuiltinName t.name)
        = true := by decide +kernel
    exact .inr (List.all_eq_true.mp hall t (List.mem_of_mem_filter ht))

theorem definitionFault_specifiedBy {extensions : List (TypeDefinition Unit)}
    {d : TypeDefinition Unit} (h : definitionFault extensions d = .ok ())
    (hscalar : d.body = .scalar) : ∃ url, specifiedBy d.directives = .ok url := by
  unfold definitionFault at h
  rw [hscalar] at h
  obtain ⟨_, hsound, -⟩ := Except.of_bind_ok h
  cases hurl : specifiedBy d.directives with
  | ok url => exact ⟨url, rfl⟩
  | error m =>
    rw [hurl] at hsound
    cases hsound

theorem extensionFault_kind {t : NamedType} {extensions : List (TypeDefinition Unit)}
    (h : extensionFault t extensions = .ok ()) {d : TypeDefinition Unit} (hd : d ∈ extensions) :
    d.body.kind = t.shape.kind := by
  by_contra hne
  have hany : (extensions.any fun d => d.body.kind != t.shape.kind) = true :=
    List.any_eq_true.mpr ⟨d, hd, bne_iff_ne.mpr hne⟩
  simp only [extensionFault, hany, if_true] at h
  split at h
  · obtain ⟨_, -, h⟩ := Except.of_bind_ok h
    cases h
  · obtain ⟨_, -, h⟩ := Except.of_bind_ok h
    cases h
  · cases h

end Build

/-- What every schema has that is built from a document. -/
structure Schema.Built (s : Schema) : Prop where
  names : (s.types.map (·.name)).Nodup
  builtin : ∀ t ∈ s.types, isBuiltinName t.name = true → Builtin.type? t.name = some t
  root : ∀ q, s.query = some q → isBuiltinName q = false → q ∈ s.types.map (·.name)

namespace Build

theorem settle_builtin {n : String} {t : NamedType} (h : Builtin.type? n = some t) :
    settle t = t := by
  have hall : ∀ t ∈ Builtin.scalars ++ Builtin.introspection, t.shape.Distinct := by
    decide +kernel
  exact settle_of_distinct (hall t (List.mem_of_find?_eq_some h))

theorem mem_added {s : Schema} {doc : Document Unit} (h : Schema.empty.add doc = .ok s)
    {t : NamedType} (ht : t ∈ s.types) :
    ∃ d ∈ (parts doc).types, t = settle (namedType (parts doc).extensions d.1 d.2) := by
  rw [(add_types h).1] at ht
  obtain ⟨u, hu, rfl⟩ := List.mem_map.mp ht
  obtain ⟨d, hd, rfl⟩ := List.mem_map.mp (mem_of_mem_lastByName hu)
  exact ⟨d, hd, rfl⟩

theorem built {s : Schema} {doc : Document Unit} (h : Schema.build doc = .ok s) : s.Built := by
  obtain ⟨s₀, hadd, h⟩ := Except.of_bind_ok h
  cases h
  have hplaced := withBuiltins_placed (add_names hadd)
  refine ⟨(hplaced _).distinct, fun t ht hbuiltin => ?_, fun q hq hown => ?_⟩
  · rcases (hplaced _).others t ht with ht | ⟨-, ht⟩
    · obtain ⟨d, -, rfl⟩ := mem_added hadd ht
      have hname : (settle (namedType (parts doc).extensions d.1 d.2)).name = d.2.name :=
        namedType_name _ _ _
      rw [hname] at hbuiltin ⊢
      obtain ⟨b, hb⟩ := Builtin.type?_of_name hbuiltin
      have hnamed : namedType (parts doc).extensions d.1 d.2 = b := by
        unfold namedType
        rw [hb]
      rw [hnamed, settle_builtin hb, hb]
    · exact ht
  -- No name is lost where built-in types are placed.
  · have hkept : ∀ ds, q ∈ s₀.types.map (·.name) → q ∈ (withBuiltins s₀.types ds).map (·.name) := by
      intro ds hmem
      obtain ⟨t, ht, rfl⟩ := List.mem_map.mp hmem
      exact List.mem_map_of_mem ((hplaced ds).kept t ht)
    refine hkept _ ?_
    simp only at hq
    split at hq
    · next hdefault =>
      cases hq
      obtain ⟨t, ht⟩ := Option.isSome_iff_exists.mp (Bool.and_eq_true_iff.mp hdefault).2
      obtain ⟨hmem, hname⟩ := Schema.mem_of_type? ht
      rw [← hname]
      exact List.mem_map_of_mem hmem
    · rw [(add_types hadd).2] at hq
      unfold rootOf at hq
      split at hq
      · next o ho =>
        cases hq
        have hmem := List.mem_reverse.mp (List.mem_of_find?_eq_some ho)
        exact (add_known hadd hmem).resolve_right (by rw [hown]; exact Bool.false_ne_true)
      · cases hq

end Build

/-- What is read is built from the document that the text is, which breaks no rule. -/
theorem Schema.of_read_ok {text : String} {s : Schema} (h : Schema.read text false = .ok s) :
    ∃ doc, Document.parse Unit text = .ok doc ∧ doc.faults = [] ∧ Schema.build doc = .ok s := by
  obtain ⟨doc, hparse, h⟩ := Except.of_bind_ok h
  obtain ⟨faults, hfaults, h⟩ := Except.of_bind_ok h
  split at h
  · next hempty =>
    refine ⟨doc, Except.of_mapError_ok hparse, ?_, Except.of_mapError_ok h⟩
    rw [if_neg Bool.false_ne_true] at hfaults
    cases hdoc : doc.faults with
    | nil => rfl
    | cons f fs =>
      rw [hdoc, List.mapM_cons] at hfaults
      obtain ⟨_, -, hfaults⟩ := Except.of_bind_ok hfaults
      obtain ⟨_, -, hfaults⟩ := Except.of_bind_ok hfaults
      cases hfaults
      cases hempty
  · cases h

namespace Federation
open Build

theorem of_requireServiceField {s : Schema} {q : String} (h : requireServiceField s q = .ok ()) :
    ∃ t, (s.type? q).or (Builtin.type? q) = some t ∧ (t.field? serviceField).isSome = true := by
  unfold requireServiceField at h
  split at h
  · cases h
  · next t ht =>
    split at h
    · cases h
    · split at h
      · next hfield => exact ⟨t, ht, hfield⟩
      · cases h

section Rooted
variable {s s' : Schema} {es : List String}

theorem builtin_unserved {n : String} {t : NamedType} (h : Builtin.type? n = some t) :
    t.field? serviceField = none := by
  have hall : ((Builtin.scalars ++ Builtin.introspection).all
      fun t => (t.field? serviceField).isNone) = true := by decide +kernel
  exact Option.isNone_iff_eq_none.mp (List.all_eq_true.mp hall t (List.mem_of_find?_eq_some h))

theorem field?_settle_eq_none {t : NamedType} {n : String} (h : t.field? n = none) :
    (settle t).field? n = none := by
  have hfields : ∀ fs : List Field, fs.find? (·.name == n) = none →
      (lastByName (·.name) (fs.map settleField)).find? (·.name == n) = none := by
    intro fs hnone
    have hname : ∀ f : Field, (settleField f).name = f.name := fun _ => rfl
    rw [find?_lastByName, ← List.map_reverse, find?_map_of_name hname, Option.map_eq_none_iff,
      List.find?_eq_none]
    exact fun f hf => List.find?_eq_none.mp hnone f (List.mem_reverse.mp hf)
  rw [NamedType.field?] at h ⊢
  cases hs : t.shape with
  | object is fs =>
    rw [hs] at h
    simp only [settle, hs]
    exact hfields fs h
  | interface is fs =>
    rw [hs] at h
    simp only [settle, hs]
    exact hfields fs h
  | _ => simp [settle, hs, TypeShape.fields]

theorem field?_evaluated_eq_none {t : NamedType} {n : String} (h : t.field? n = none) :
    (t.evaluated s).field? n = none := by
  have hname : ∀ f : Field, ({ f with arguments := f.arguments.map (·.evaluated s) } : Field).name
      = f.name := fun _ => rfl
  rw [NamedType.field?, NamedType.evaluated_shape, TypeShape.fields_mapInputs, find?_map_of_name hname]
  rw [NamedType.field?] at h
  rw [h]
  rfl

theorem type?_add_builtin (hnames : (s.types.map (·.name)).Nodup)
    (h : s.add (additions s es) = .ok s') {q : String} (hq : isBuiltinName q = true) :
    s'.type? q = (s.type? q).map fun u => settle (u.evaluated s) := by
  have hcreated : (createsRoot s && q == defaultQuery) = false := by
    rw [Bool.and_eq_false_iff]
    refine .inr (beq_eq_false_iff_ne.mpr fun heq => ?_)
    rw [heq] at hq
    exact absurd hq (by decide)
  have hcommon : (commonDefinitions s es).find? (·.2.name == q) = none := by
    refine List.find?_eq_none.mpr fun d hd hname => ?_
    rw [← eq_of_beq hname] at hq
    rcases commonDefinitions_names hd with hd | hd | ⟨hd, -⟩ | ⟨hd, -⟩ <;>
      exact absurd (hd ▸ hq) (by decide)
  rw [type?_add hnames h, hcreated, hcommon, find?_extended]
  simp only [Bool.false_eq_true, if_false, Option.map_none, Option.none_or, Option.map_map]
  refine Option.map_congr fun u hu => ?_
  have hbuiltin : u.isDefined = false := by
    rw [NamedType.isDefined, (Schema.mem_of_type? hu).2, hq]
    rfl
  simp [hbuiltin]

section Extended
variable (hb : s.Built) (h : s.extend (additions s es) = .ok s')
include hb h

theorem builtin_extend {q : String} (hq : isBuiltinName q = true) {t : NamedType}
    (ht : s'.type? q = some t) :
    ∃ u, Builtin.type? q = some u ∧ (t = u ∨ t = settle (u.evaluated s)) := by
  obtain ⟨s₁, hadd, rfl⟩ := extend_eq h
  have hnames := add_names hadd
  obtain ⟨hmem, hname⟩ := Schema.mem_of_type? ht
  rcases (withBuiltins_placed hnames _).others t hmem with hmem | ⟨-, hbuiltin⟩
  · have htype := Schema.type?_of_mem hnames hmem
    rw [hname, type?_add_builtin hb.names hadd hq, Option.map_eq_some_iff] at htype
    obtain ⟨u, hu, rfl⟩ := htype
    obtain ⟨humem, huname⟩ := Schema.mem_of_type? hu
    refine ⟨u, ?_, .inr rfl⟩
    rw [← huname]
    exact hb.builtin u humem (by rw [huname]; exact hq)
  · rw [hname] at hbuiltin
    exact ⟨t, hbuiltin, .inl rfl⟩

theorem rooted_of_served (hserved : requireServiceField s' (rootName s) = .ok ()) : Rooted s where
  names := hb.names
  root := by
    intro q hq
    have hroot : rootName s = q := by rw [rootName, hq, Option.getD_some]
    have hown : isBuiltinName q = false := by
      rw [Bool.eq_false_iff]
      intro hbuiltin
      obtain ⟨t, ht, hfield⟩ := of_requireServiceField hserved
      rw [hroot] at ht
      have hnone : t.field? serviceField = none := by
        rcases Option.or_eq_some_iff.mp ht with ht | ⟨-, ht⟩
        · obtain ⟨u, hu, rfl | rfl⟩ := builtin_extend hb h hbuiltin ht
          · exact builtin_unserved hu
          · exact field?_settle_eq_none (field?_evaluated_eq_none (builtin_unserved hu))
        · exact builtin_unserved ht
      rw [hnone] at hfield
      cases hfield
    obtain ⟨s₁, hadd, -⟩ := extend_eq h
    obtain ⟨t, ht, hname⟩ := List.mem_map.mp (hb.root q hq hown)
    have hdefined : t.isDefined = true := by rw [NamedType.isDefined, hname, hown]; rfl
    have hcreates : createsRoot s = false := by rw [createsRoot, hq]; rfl
    have hsound := (adds_of_ok hadd).extensions t ht hdefined
    rw [(parts_additions s es).2.1, hcreates, hroot, hname] at hsound
    have hkind := extensionFault_kind hsound (d := queryBody q es) (by simp [queryBody])
    refine ⟨?_, hown⟩
    rw [Schema.isObject, ← hname, Schema.shape?_of_mem hb.names ht]
    cases hs : t.shape <;> simp [queryBody, TypeBody.kind, TypeShape.kind, hs,
      TypeShape.mapInputs] at hkind
    rfl

end Extended

theorem Rooted.service_add (hr : Rooted s) (h : s.add (additions s es) = .ok s') :
    ∃ u, s'.type? serviceType = some u ∧ u.shape.isObject = true
      ∧ u.field? "sdl" = some sdlFieldType := by
  have hcreated : (createsRoot s && serviceType == defaultQuery) = false := by
    rw [show (serviceType == defaultQuery) = false by decide, Bool.and_false]
  have hbuiltin : Builtin.type? serviceType = none := by decide +kernel
  have hfind : (commonDefinitions s es).find? (·.2.name == serviceType) = some
      (none, ⟨(), serviceType, [], .object [] [⟨none, "sdl", [], .named "String", []⟩]⟩) := by
    simp [commonDefinitions, anyScalar, serviceType]
  have hextensions : (if createsRoot s then [] else [queryBody (rootName s) es]).filter
      (·.name == serviceType) = []
      ∨ (if createsRoot s then [] else [queryBody (rootName s) es]).filter (·.name == serviceType)
        = [queryBody (rootName s) es] := by
    split
    · exact .inl rfl
    · rw [List.filter_cons]
      split
      · exact .inr rfl
      · exact .inl rfl
  refine ⟨_, by rw [type?_add hr.names h, hcreated, hfind]; rfl, ?_⟩
  unfold namedType
  simp only [hbuiltin]
  rcases hextensions with hnone | hone
  · rw [hnone]
    exact ⟨rfl, rfl⟩
  · rw [hone]
    refine ⟨rfl, ?_⟩
    show (lastByName Field.name ((_ ++ protocolFieldTypes es).map settleField)).find?
      (·.name == "sdl") = _
    rw [find?_lastByName, protocolFieldTypes_eq]
    cases es.isEmpty <;> rfl

theorem texts_extend (hb : s.Built) (hr : Rooted s) (h : s.extend (additions s es) = .ok s') :
    s'.shape? "String" = some (.scalar none) := by
  have hsame := h
  obtain ⟨s₁, hadd, rfl⟩ := extend_eq h
  obtain ⟨u, hu, hobject, hsdl⟩ := hr.service_add hadd
  have hmem := List.mem_of_find?_eq_some hsdl
  have hreference : "String" ∈ references u := by
    cases hs : u.shape with
    | object is fs =>
      rw [hs] at hmem
      simp only [references, hs, TypeShape.interfaces, TypeShape.fields]
      exact List.mem_append_right _ (List.mem_flatMap.mpr ⟨_, hmem, List.mem_cons_self⟩)
    | _ => rw [hs] at hobject; cases hobject
  have hplaced := mem_withBuiltins (add_names hadd) s₁.directives (Schema.mem_of_type? hu).1 hreference (by decide)
  obtain ⟨t, ht⟩ := Option.ne_none_iff_exists'.mp (mem_names_iff (s := s₁.placeBuiltins) |>.mp hplaced)
  obtain ⟨v, hv, hkept⟩ := builtin_extend hb hsame (by decide) ht
  have htext : v.shape = .scalar none := by
    have hshape : (Builtin.type? "String").map (·.shape) = some (.scalar none) := rfl
    rw [hv] at hshape
    exact Option.some.inj hshape
  rw [Schema.shape?, ht, Option.map_some]
  rcases hkept with rfl | rfl
  · rw [htext]
  · simp [settle, htext, TypeShape.mapInputs]

end Rooted

section Transformed
open Config
variable {s : Schema} {y : Service} {config : Config} {c : Classification} {sdl : String}

theorem Transforms.isRooted (hb : s.Built) (h : Transforms (.ofSchema s) config c sdl y) : Rooted s :=
  rooted_of_served hb h.extends h.servable

theorem Transforms.shows_sdl (hb : s.Built) (h : Transforms (.ofSchema s) config c sdl y) :
    ∃ t u, HoldsSdl y t u sdl := by
  have hr := h.isRooted hb
  have hextends : s.extend (additions s c.entityNames) = .ok y.schema := h.extends
  obtain ⟨t, hquery, htype, hname, hobject, hfield, -⟩ := hr.extend_root hextends
  have htexts := texts_extend hb hr hextends
  obtain ⟨s₁, hadd, hs₁⟩ := extend_eq hextends
  obtain ⟨u, hu, hbelow, hsdl⟩ := hr.service_add hadd
  have hresolvers : y.resolvers = protocolResolvers (rootName s) c sdl := by
    rw [h.resolvers]
    exact List.append_nil _
  have hchecks : y.typeChecks = [] := by rw [h.typeChecks]; rfl
  refine ⟨t, u, hquery, htype, hobject, hfield, ?_, hbelow, hsdl, htexts, ?_, ?_, ?_⟩
  · rw [← hs₁, type?_placeBuiltins (by decide), hu]
  · rw [Service.resolver?, hresolvers, hname, protocolResolvers, List.lookup_cons, beq_self_eq_true]
  · have hne : ∀ n, n ≠ "sdl" → ((serviceType, "sdl") == (rootName s, n)) = false := fun n hn =>
      beq_eq_false_iff_ne.mpr fun heq => hn (Prod.mk.inj heq).2.symm
    rw [Service.resolver?, hresolvers, protocolResolvers, List.lookup_cons, hne _ (by decide)]
    cases c.entityNames.isEmpty with
    | true => rfl
    | false =>
      simp only [Bool.false_eq_true, if_false]
      rw [List.lookup_cons, hne _ (by decide)]
      rfl
  · rw [Service.typeCheck?, hchecks]
    rfl

end Transformed
end Federation
end Subgraph
