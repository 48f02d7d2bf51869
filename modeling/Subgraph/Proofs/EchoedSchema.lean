import Subgraph.Proofs.Rebuilding

/-!
# What the schema of an SDL has

The schema of an SDL has the types and the directives that the SDL shows, and the same roots as far as the
SDL says them. All its input types accept what those of the schema accept, so the defaults mean the same.
-/

namespace Subgraph

namespace Build
variable {types : List NamedType} {own : String → Bool}

theorem mem_withBuiltins_argument (hnodup : (types.map (·.name)).Nodup) {directives : List DirectiveType}
    {d : DirectiveType} (hd : d ∈ directives) {v : InputValue} (hv : v ∈ d.arguments)
    (hbuiltin : isBuiltinName v.type.base = true) :
    v.type.base ∈ (withBuiltins types directives).map (·.name) := by
  cases hown : types.any (·.name == v.type.base) with
  | true =>
    obtain ⟨u, hu, hname⟩ := List.mem_map.mp (any_name_iff.mp hown)
    rw [← hname]
    exact List.mem_map_of_mem ((withBuiltins_placed hnodup directives).kept u hu)
  | false =>
    have hmem : v.type.base ∈ directives.flatMap fun d => d.arguments.map (·.type.base) :=
      List.mem_flatMap.mpr ⟨d, hd, List.mem_map.mpr ⟨v, hv, rfl⟩⟩
    exact mem_foldl_addBuiltin _ _ (mem_foldl_addBuiltin_of_mem hown hbuiltin hmem _)

theorem isLeaf_builtin {n : String} {t : NamedType} (h : Builtin.type? n = some t)
    (hinput : t.shape.isInput = true) :
    t.shape.isLeaf = true := by
  have hall : ∀ t ∈ Builtin.scalars ++ Builtin.introspection, t.shape.isInput = true →
      t.shape.isLeaf = true := by
    decide +kernel
  exact hall t (List.mem_of_find?_eq_some h) hinput

theorem builtin_ne_input {n : String} {t : NamedType} (h : Builtin.type? n = some t) (o : Bool)
    (fs : List InputValue) : t.shape ≠ .input o fs := by
  intro hshape
  have hleaf := isLeaf_builtin h (by rw [hshape]; rfl)
  rw [hshape] at hleaf
  cases hleaf

theorem echoes_builtin {s : Schema} {n : String} {t : NamedType} (h : Builtin.type? n = some t)
    (hinput : t.shape.isInput = true) : t.shape.Echoes s t.shape := by
  have hleaf := isLeaf_builtin h hinput
  cases hshape : t.shape with
  | scalar url => exact .scalar url url
  | enum vs => exact .enum rfl
  | _ => rw [hshape] at hleaf; cases hleaf

/-- The values of an enum type. -/
def enumValues : TypeShape → List EnumValue
  | .enum vs => vs
  | _ => []

theorem legible_builtin {n : String} {t : NamedType} (h : Builtin.type? n = some t) {vs : List EnumValue}
    (hshape : t.shape = .enum vs) : ∀ v ∈ vs, Token.isName v.name = true ∧ v.name ∉ Parser.reservedWords := by
  have hall : ∀ t ∈ Builtin.scalars ++ Builtin.introspection, (enumValues t.shape).all
      (fun v => Token.isName v.name && !Parser.reservedWords.contains v.name) = true := by
    decide +kernel
  have ht := hall t (List.mem_of_find?_eq_some h)
  rw [hshape] at ht
  intro v hv
  have hboth := Bool.and_eq_true_iff.mp (List.all_eq_true.mp ht v hv)
  exact ⟨hboth.1, by simpa using hboth.2⟩

end Build

namespace Federation
open Build

section References
variable {s : Schema}

theorem bases_echoArguments (vs : List InputValue) :
    (echoArguments s vs).map (·.type.base) = vs.map (·.type.base) := by
  rw [echoArguments, argumentSources, List.map_map, List.map_map]
  refine List.map_congr_left fun v _ => ?_
  show (if areQuiet vs then { v with description := none } else v).type.base = v.type.base
  split <;> rfl

theorem references_echoType (c : Classification) (t : NamedType) :
    references (echoType s c t) = references t := by
  have hfields : ∀ fs : List Field,
      (fs.map (echoField s)).flatMap (fun f => f.type.base :: f.arguments.map (·.type.base))
      = fs.flatMap fun f => f.type.base :: f.arguments.map (·.type.base) := by
    intro fs
    rw [List.flatMap_map]
    simp only [echoField_eq, bases_echoArguments]
  unfold references echoType
  cases t.shape with
  | object is fs => exact congrArg _ (hfields fs)
  | interface is fs => exact congrArg _ (hfields fs)
  | input o fs =>
    simp only [echoShape, List.map_map]
    rfl
  | _ => rfl

theorem base_mem_references {t : NamedType} {v : InputValue} (hv : v ∈ t.shape.inputs) :
    v.type.base ∈ references t := by
  have hfields : ∀ (is : List String) (fs : List Field), v ∈ fs.flatMap (·.arguments) →
      v.type.base ∈ is ++ fs.flatMap fun f => f.type.base :: f.arguments.map (·.type.base) := by
    intro is fs hmem
    obtain ⟨f, hf, hv⟩ := List.mem_flatMap.mp hmem
    exact List.mem_append_right _ (List.mem_flatMap.mpr
      ⟨f, hf, List.mem_cons_of_mem _ (List.mem_map_of_mem (f := fun w => w.type.base) hv)⟩)
  unfold references
  cases hshape : t.shape with
  | object is fs => exact hfields is fs (by rwa [hshape] at hv)
  | interface is fs => exact hfields is fs (by rwa [hshape] at hv)
  | input o fs =>
    rw [hshape] at hv
    exact List.mem_map_of_mem (f := fun w => w.type.base) hv
  | _ => rw [hshape] at hv; cases hv

end References

section Parts
variable {s : Schema} (c : Classification)

theorem serviceTypes_echo : serviceTypes (echo s c) = (serviceTypes s).map (echoType s c) := by
  have hkept : ∀ t ∈ (serviceTypes s).map (echoType s c),
      t.isDefined = true ∧ (!isTypeName t.name) = true := by
    intro t ht
    obtain ⟨u, hu, rfl⟩ := List.mem_map.mp ht
    obtain ⟨-, hdefined, hname⟩ := mem_serviceTypes.mp hu
    exact ⟨hdefined, by rw [Bool.not_eq_true']; exact hname⟩
  have hsplit : ∀ ts : List NamedType, ts.filter (fun t => t.isDefined && !isTypeName t.name)
      = (ts.filter (·.isDefined)).filter (fun t => !isTypeName t.name) := by
    intro ts
    rw [List.filter_filter]
    exact List.filter_congr fun t _ => Bool.and_comm _ _
  show (withBuiltins (added s c).types _).filter _ = _
  rw [hsplit, filter_withBuiltins, added, List.filter_eq_self.mpr fun t ht => (hkept t ht).1,
    List.filter_eq_self.mpr fun t ht => (hkept t ht).2]

theorem serviceDirectives_echo :
    serviceDirectives (echo s c) = (serviceDirectives s).map (echoDirective s) := by
  have hspecified : (Builtin.directives.filter fun d => ((added s c).directive? d.name).isNone).filter
      (!·.isSpecified) = [] := by
    rw [List.filter_eq_nil_iff]
    intro d hd
    have hall : ∀ d ∈ Builtin.directives, d.isSpecified = true := by decide +kernel
    rw [hall d (List.mem_of_mem_filter hd)]
    exact Bool.false_ne_true
  have hkept : ∀ d ∈ (serviceDirectives s).map (echoDirective s),
      (!d.isSpecified) = true ∧ (!isDirectiveName d.name) = true := by
    intro d hd
    obtain ⟨e, he, rfl⟩ := List.mem_map.mp hd
    exact ⟨(List.mem_filter.mp (List.mem_of_mem_filter he)).2, (List.mem_filter.mp he).2⟩
  show (((added s c).directives ++ _).filter (!·.isSpecified)).filter (fun d => !isDirectiveName d.name) = _
  rw [List.filter_append, hspecified, List.append_nil, added,
    List.filter_eq_self.mpr fun d hd => (hkept d hd).1,
    List.filter_eq_self.mpr fun d hd => (hkept d hd).2]

theorem root_echo (k : OperationKind) : (echo s c).root k = takenRoot s c k := by
  cases k <;> rfl

theorem roots_defined {d : SchemaDefinition Unit} (h : schemaSource s = some d) :
    rootsOf (echo s c) = rootsOf s ∧ (echo s c).description = s.description := by
  have hroot : ∀ k, (echo s c).root k = s.root k := fun k => by
    rw [root_echo, takenRoot, h]
    rfl
  refine ⟨?_, ?_⟩
  · simp only [rootsOf, hroot]
  · show (schemaSource s).bind _ = _
    rw [h]
    rfl

theorem schemaSource_echo : schemaSource (echo s c) = schemaSource s := by
  cases h : schemaSource s with
  | some d =>
    obtain ⟨hroots, hdescription⟩ := roots_defined c h
    have hroot : ∀ k, (echo s c).root k = s.root k := fun k => by
      rw [root_echo, takenRoot, h]
      rfl
    have hdefault : (echo s c).hasDefaultRoots = s.hasDefaultRoots := by
      simp only [Schema.hasDefaultRoots, hroot]
    rw [← h, schemaSource, schemaSource, hroots, hdescription, hdefault]
  | none =>
    have hdescription : (echo s c).description = none := by
      show (schemaSource s).bind _ = _
      rw [h]
      rfl
    have hdefault : (echo s c).hasDefaultRoots = true := by
      rw [Schema.hasDefaultRoots, List.all_eq_true]
      intro k _
      rw [root_echo, takenRoot, h, Option.isSome_none, if_neg Bool.false_ne_true]
      split
      · exact beq_self_eq_true _
      · rfl
    rw [schemaSource, hdescription, hdefault]
    rfl

section Found
variable (hs : IsReadable s)
include hs

theorem placed_echo : Placed (added s c).types (added s c).types (echo s c).types :=
  withBuiltins_placed (by rw [names_added]; exact serviceNames_nodup hs) _

theorem mem_echo {t : NamedType} (ht : t ∈ serviceTypes s) : echoType s c t ∈ (echo s c).types :=
  (placed_echo c hs).kept _ (List.mem_map_of_mem ht)

theorem shape_echo {n : String} {sh : TypeShape} (h : (echo s c).shape? n = some sh) :
    (∃ t ∈ serviceTypes s, t.name = n ∧ echoShape s t.shape = sh)
      ∨ ∃ b, Builtin.type? n = some b ∧ b.shape = sh := by
  obtain ⟨t, ht, rfl, rfl⟩ := Schema.mem_of_shape? h
  rcases (placed_echo c hs).others t ht with hadded | ⟨-, hbuiltin⟩
  · obtain ⟨u, hu, rfl⟩ := List.mem_map.mp hadded
    exact .inl ⟨u, hu, rfl, rfl⟩
  · exact .inr ⟨t, hbuiltin, rfl⟩

theorem shape_of_service {t : NamedType} (ht : t ∈ serviceTypes s) : s.shape? t.name = some t.shape :=
  Schema.shape?_of_mem hs.names (mem_serviceTypes.mp ht).1

theorem fits_shown {v : InputValue} (hv : v ∈ shownInputs s) : v.Fits s := by
  rcases List.mem_append.mp hv with hv | hv
  · obtain ⟨d, hd, hv⟩ := List.mem_flatMap.mp hv
    exact (hs.arguments d hd).2 v hv
  · obtain ⟨t, ht, hv⟩ := List.mem_flatMap.mp hv
    exact (hs.refers t ht).inputs v hv

variable (hplain : ∀ n ∈ typeNames, (s.type? n).isNone = true)
include hplain

/-- A type that the schema knows is one of the service or built in. -/
theorem shape_cases {n : String} {sh : TypeShape} (h : s.shape? n = some sh) :
    (∃ t ∈ serviceTypes s, t.name = n ∧ t.shape = sh) ∨ ∃ b, Builtin.type? n = some b ∧ b.shape = sh := by
  obtain ⟨t, ht, rfl, rfl⟩ := Schema.mem_of_shape? h
  rcases service_or_builtin hs hplain ht with hservice | hbuiltin
  · exact .inl ⟨t, hservice, rfl, rfl⟩
  · exact .inr ⟨t, hbuiltin, rfl⟩

theorem known_echo {v : InputValue} (hv : v ∈ shownInputs s) :
    ((echo s c).shape? v.type.base).isSome = true := by
  have hnodup : ((added s c).types.map (·.name)).Nodup := by
    rw [names_added]
    exact serviceNames_nodup hs
  suffices hmem : v.type.base ∈ (echo s c).types.map (·.name) by
    obtain ⟨t, ht, hname⟩ := List.mem_map.mp hmem
    rw [← hname, Schema.shape?_of_mem (placed_echo c hs).distinct ht]
    rfl
  obtain ⟨sh, hsh, -⟩ := (Option.any_eq_true _ _).mp (fits_shown hs hv).type
  rcases shape_cases hs hplain hsh with ⟨t, ht, hname, -⟩ | ⟨b, hb, -⟩
  · have hmem := List.mem_map_of_mem (f := NamedType.name) (mem_echo c hs ht)
    rw [← hname]
    exact hmem
  · have hbuiltin := (Builtin.type?_name hb).2
    rcases List.mem_append.mp hv with hv | hv
    · obtain ⟨d, hd, hv⟩ := List.mem_flatMap.mp hv
      obtain ⟨w, hw, hbase⟩ : ∃ w ∈ (echoDirective s d).arguments, w.type.base = v.type.base := by
        have hmem : v.type.base ∈ (echoDirective s d).arguments.map (·.type.base) := by
          rw [echoDirective_eq (hs.arguments d hd).1,
            bases_echoArguments]
          exact List.mem_map_of_mem hv
        exact List.mem_map.mp hmem
      rw [← hbase] at hbuiltin ⊢
      exact mem_withBuiltins_argument hnodup
        (List.mem_append_left _ (List.mem_map_of_mem (f := echoDirective s) hd)) hw hbuiltin
    · obtain ⟨t, ht, hv⟩ := List.mem_flatMap.mp hv
      refine mem_withBuiltins hnodup _ (List.mem_map_of_mem (f := echoType s c) ht) ?_ hbuiltin
      rw [references_echoType]
      exact base_mem_references hv

theorem echoes_echo : s.Echoes (echo s c) where
  shape := by
    intro n sh sh' hsh hinput hsh'
    rcases shape_echo c hs hsh' with ⟨t, ht, rfl, rfl⟩ | ⟨b, hb, rfl⟩
    · rw [shape_of_service hs ht] at hsh
      rw [← Option.some.inj hsh] at hinput ⊢
      exact echoes_echoShape hinput
    · rcases shape_cases hs hplain hsh with ⟨t, ht, rfl, -⟩ | ⟨b', hb', rfl⟩
      · have hbuiltin := (Builtin.type?_name hb).2
        rw [service_not_builtin ht] at hbuiltin
        cases hbuiltin
      · obtain rfl := Option.some.inj (hb.symm.trans hb')
        exact echoes_builtin hb hinput
  inside := by
    intro n o fs hsh f hf
    rcases shape_echo c hs hsh with ⟨t, ht, rfl, hshape⟩ | ⟨b, hb, hshape⟩
    · cases hts : t.shape with
      | input o' fs' =>
        rw [hts] at hshape
        obtain ⟨-, rfl⟩ := TypeShape.input.inj hshape
        obtain ⟨v, hv, rfl⟩ := List.mem_map.mp hf
        have hshown : v ∈ shownInputs s := mem_shownInputs ht (by rw [hts]; exact hv)
        have hknown := known_echo c hs hplain hshown
        rw [echoInput_eq (restored_ne (by decide) _)]
        exact hknown
      | _ => rw [hts] at hshape; cases hshape
    · exact absurd hshape (builtin_ne_input hb o fs)

theorem legibleInputs : s.HasLegibleInputs where
  values := by
    intro n vs hsh v hv
    rcases shape_cases hs hplain hsh with ⟨t, ht, rfl, hshape⟩ | ⟨b, hb, hshape⟩
    · have hlegible := (hs.legible.types t ht).shape
      rw [hshape] at hlegible
      exact ⟨(hlegible v hv).name, (hlegible v hv).unreserved⟩
    · exact legible_builtin hb hshape v hv
  fields := by
    intro n o fs hsh f hf
    rcases shape_cases hs hplain hsh with ⟨t, ht, rfl, hshape⟩ | ⟨b, hb, hshape⟩
    · have hlegible := (hs.legible.types t ht).shape
      rw [hshape] at hlegible
      exact ⟨(hlegible f hf).name, (hlegible f hf).type.writable⟩
    · exact absurd hshape (builtin_ne_input hb o fs)
  distinct := by
    intro n o fs hsh
    rcases shape_cases hs hplain hsh with ⟨t, ht, rfl, hshape⟩ | ⟨b, hb, hshape⟩
    · have hdistinct := hs.distinct t ht
      rw [hshape] at hdistinct
      exact hdistinct
    · exact absurd hshape (builtin_ne_input hb o fs)

end Found

theorem unwritableIn?_eq_none {t : NamedType}
    (h : ∀ v ∈ t.shape.inputs, s.unwritableDefault? v = none) : unwritableIn? s t = none := by
  have hfields : ∀ fs : List Field, (∀ v ∈ fs.flatMap (·.arguments), s.unwritableDefault? v = none) →
      ((declaredFields s t fs).findSome? fun f => f.arguments.findSome? s.unwritableDefault?) = none := by
    intro fs hfs
    rw [List.findSome?_eq_none_iff]
    intro f hf
    have hmem : f ∈ fs := by
      unfold declaredFields at hf
      split at hf
      · exact List.mem_of_mem_filter hf
      · exact hf
    exact List.findSome?_eq_none_iff.mpr fun v hv => hfs v (List.mem_flatMap.mpr ⟨f, hmem, hv⟩)
  unfold unwritableIn?
  cases hshape : t.shape with
  | input o fs =>
    rw [hshape] at h
    exact List.findSome?_eq_none_iff.mpr h
  | object is fs => exact hfields fs (by rw [hshape] at h; exact h)
  | interface is fs => exact hfields fs (by rw [hshape] at h; exact h)
  | _ => exact hfields [] nofun

theorem declaredFields_all {t : NamedType}
    (h : s.query = some t.name → ∀ f ∈ t.shape.fields, isFieldName f.name = false) :
    declaredFields s t t.shape.fields = t.shape.fields := by
  unfold declaredFields
  split
  · next hquery =>
    rw [List.filter_eq_self]
    intro f hf
    rw [h hquery f hf]
    rfl
  · rfl

theorem directiveMap_echo : directiveMap (echo s c) ⟨[]⟩ = directiveMap s c := by
  rw [directiveMap, serviceTypes_echo, List.flatMap_map, directiveMap]
  simp only [typeEntries_again]

theorem names_echoFields (shape : TypeShape) :
    (echoShape s shape).fields.map (·.name) = shape.fields.map (·.name) := by
  have hfields : ∀ fs : List Field, (fs.map (echoField s)).map (·.name) = fs.map (·.name) := fun fs => by
    rw [List.map_map]
    rfl
  cases shape with
  | object is fs => exact hfields fs
  | interface is fs => exact hfields fs
  | _ => rfl

section Again
variable (hdefaults : HasStableDefaults s (echo s c))
include hdefaults

theorem stable_types {t : NamedType} (ht : t ∈ serviceTypes s) :
    ∀ v ∈ t.shape.inputs, ∀ l, shownDefault s v = some l → l.IsStable (echo s c) v.type :=
  fun v hv => hdefaults v (mem_shownInputs ht hv)

theorem stable_directives {d : DirectiveType} (hd : d ∈ serviceDirectives s) :
    ∀ v ∈ d.arguments, ∀ l, shownDefault s v = some l → l.IsStable (echo s c) v.type :=
  fun v hv => hdefaults v (List.mem_append_left _ (List.mem_flatMap.mpr ⟨d, hd, hv⟩))

/-- The document of the SDL of what was read is the document that was read. -/
theorem source_echo (hs : IsReadable s) : source (echo s c) ⟨[]⟩ = source s c := by
  have hdirectives : ((serviceDirectives s).map (echoDirective s)).map
        (fun d => Definition.directive (directiveSource (echo s c) d))
      = (serviceDirectives s).map fun d => Definition.directive (directiveSource s d) := by
    rw [List.map_map]
    exact List.map_congr_left fun d hd => congrArg Definition.directive
      (directiveSource_again (hs.arguments d hd).1 (stable_directives c hdefaults hd))
  have htypes : ((serviceTypes s).map (echoType s c)).map
        (fun t => Definition.type t.description (typeSource (echo s c) ⟨[]⟩ t))
      = (serviceTypes s).map fun t => Definition.type t.description (typeSource s c t) := by
    rw [List.map_map]
    exact List.map_congr_left fun t ht => congrArg (Definition.type t.description)
      (typeSource_again c (stable_types c hdefaults ht))
  rw [source, source, schemaSource_echo, serviceTypes_echo, serviceDirectives_echo, hdirectives, htypes]
  cases h : schemaSource s with
  | none => rfl
  | some d => rw [(roots_defined c h).2]

theorem unwritable?_echo (hs : IsReadable s) : unwritable? (echo s c) = none := by
  have htypes : ((serviceTypes s).map (echoType s c)).findSome? (unwritableIn? (echo s c)) = none := by
    rw [List.findSome?_eq_none_iff]
    intro u hu
    obtain ⟨t, ht, rfl⟩ := List.mem_map.mp hu
    exact unwritableIn?_eq_none (writable_again (stable_types c hdefaults ht))
  have hdirectives : ((serviceDirectives s).map (echoDirective s)).findSome?
      (fun d => d.arguments.findSome? (echo s c).unwritableDefault?) = none := by
    rw [List.findSome?_eq_none_iff]
    intro e he
    obtain ⟨d, hd, rfl⟩ := List.mem_map.mp he
    rw [echoDirective_eq (hs.arguments d hd).1,
      List.findSome?_eq_none_iff]
    exact (arguments_again (stable_directives c hdefaults hd)).2
  rw [unwritable?, serviceTypes_echo, serviceDirectives_echo, htypes, hdirectives]
  rfl

end Again
end Parts
end Federation
end Subgraph
