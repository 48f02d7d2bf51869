import Subgraph.Proofs.ClearDocuments
import Subgraph.Proofs.WidenedOverlap

/-!
# Validity in wide and narrow schemas

A document of queries and mutations against which a schema raises no issue is one against which a
schema that widens it raises none either: every search for issues takes the same course.
-/

namespace Subgraph

namespace Site
variable {s : Schema}

mutual

theorem ofSelection_below : ∀ (p : Option NamedType) (x : Selection Nat) {q : Option NamedType}
    {ss : List (Selection Nat)}, .selections q ss ∈ ofSelection s p x →
    ∀ site ∈ ofSelections s q ss, site ∈ ofSelection s p x
  | p, .field m l n as ds bm body, q, ss, hmem, site, hsite => by
    rw [ofSelection] at hmem ⊢
    rcases List.mem_cons.mp hmem with hmem | hmem
    · cases hmem
    refine List.mem_cons_of_mem _ (List.mem_append_left _ (List.mem_append_right _ ?_))
    rcases List.mem_append.mp hmem with hmem | hmem
    · rcases List.mem_append.mp hmem with hmem | hmem
      · split at hmem
        · cases hmem
        · cases List.mem_singleton.mp hmem
          exact hsite
      · exact ofSelections_below _ body hmem site hsite
    · cases List.mem_singleton.mp hmem
  | p, .spread m nm n ds, q, ss, hmem, site, hsite => by
    rw [ofSelection] at hmem
    cases List.mem_singleton.mp hmem
  | p, .inline m c ds body, q, ss, hmem, site, hsite => by
    rw [ofSelection_inline] at hmem ⊢
    refine List.mem_cons_of_mem _ (List.mem_cons_of_mem _ ?_)
    rcases List.mem_cons.mp hmem with hmem | hmem
    · cases hmem
    rcases List.mem_cons.mp hmem with hmem | hmem
    · cases hmem
      exact hsite
    · exact ofSelections_below _ body hmem site hsite

theorem ofSelections_below : ∀ (p : Option NamedType) (xs : List (Selection Nat))
    {q : Option NamedType} {ss : List (Selection Nat)}, .selections q ss ∈ ofSelections s p xs →
    ∀ site ∈ ofSelections s q ss, site ∈ ofSelections s p xs
  | _, [], _, _, hmem, _, _ => by cases hmem
  | p, x :: xs, q, ss, hmem, site, hsite => by
    rw [ofSelections] at hmem ⊢
    rcases List.mem_append.mp hmem with hmem | hmem
    · exact List.mem_append_left _ (ofSelection_below p x hmem site hsite)
    · exact List.mem_append_right _ (ofSelections_below p xs hmem site hsite)

end
end Site

namespace Query

section Uses
variable {s s' : Schema}

mutual

theorem literalUses_known (h : s.Evaluates s') (hasDefault : Bool) (oneOf? : Option String) :
    ∀ (t : Option TypeRef), Known s t → ∀ l : Literal Nat,
      ∀ u ∈ literalUses s hasDefault oneOf? t l, Known s u.type?
  | t, ht, .variable m n, u, hu => by
    rw [literalUses] at hu
    rw [List.mem_singleton.mp hu]
    exact ht
  | t, ht, .list m xs, u, hu => by
    rw [literalUses] at hu
    exact itemUses_known h _ ht.item xs u hu
  | t, ht, .object m fs, u, hu => by
    rw [literalUses] at hu
    exact fieldUses_known h _ (knownFields_inputFields? h ht) fs u hu
  | t, _, .null m, u, hu => by simp only [literalUses, List.not_mem_nil] at hu
  | t, _, .int m d, u, hu => by simp only [literalUses, List.not_mem_nil] at hu
  | t, _, .float m d, u, hu => by simp only [literalUses, List.not_mem_nil] at hu
  | t, _, .string m w b, u, hu => by simp only [literalUses, List.not_mem_nil] at hu
  | t, _, .bool m b, u, hu => by simp only [literalUses, List.not_mem_nil] at hu
  | t, _, .enum m n, u, hu => by simp only [literalUses, List.not_mem_nil] at hu

theorem itemUses_known (h : s.Evaluates s') (t : Option TypeRef) (ht : Known s t) :
    ∀ xs : List (Literal Nat), ∀ u ∈ itemUses s t xs, Known s u.type?
  | [], _, hu => by cases hu
  | x :: xs, u, hu => by
    rw [itemUses] at hu
    rcases List.mem_append.mp hu with hu | hu
    · exact literalUses_known h false none t ht x u hu
    · exact itemUses_known h t ht xs u hu

theorem fieldUses_known (h : s.Evaluates s') (fields? : Option (String × Bool × List InputValue))
    (hf : KnownFields s fields?) :
    ∀ fs : List (Nat × String × Literal Nat), ∀ u ∈ fieldUses s fields? fs, Known s u.type?
  | [], _, hu => by cases hu
  | (m, n, v) :: r, u, hu => by
    have htype : Known s ((fields?.bind fun f => f.2.2.find? (·.name == n)).map (·.type)) := by
      have hfield := hf.field n
      cases fields? <;> exact hfield
    rw [fieldUses] at hu
    rcases List.mem_append.mp hu with hu | hu
    · exact literalUses_known h _ _ _ htype v u hu
    · exact fieldUses_known h fields? hf r u hu

end
end Uses
end Query

namespace QueryContext

section On
variable {extra : NamedType → List Field} {shared : String → Prop} {s' : Schema} {c : QueryContext}
  (h : c.schema.Widens extra shared s')
include h

section Variables

theorem variableTypeIssues_on {v : VariableDefinition Nat} (hv : shared v.type.base) :
    (c.on s').variableTypeIssues v = c.variableTypeIssues v := by
  have hinput : (s'.shape? v.type.base).all TypeShape.isInput
      = (c.schema.shape? v.type.base).all TypeShape.isInput := h.all hv TypeShape.isInput_widened
  simp only [variableTypeIssues, on, hinput]

theorem variableDefinitionIssues_on {v : VariableDefinition Nat}
    (hv : v.type.base ∈ c.schema.types.map (·.name)) (hd : ∀ d ∈ v.directives, c.Knows d) :
    (c.on s').variableDefinitionIssues v = c.variableDefinitionIssues v := by
  have hinput : s'.inputType? v.type = c.schema.inputType? v.type :=
    h.inputType? (h.shared_of_mem hv)
  have hdefault : Query.literalIssues s' true (c.schema.inputType? v.type)
      = Query.literalIssues c.schema true (c.schema.inputType? v.type) :=
    funext (Query.literalIssues_evaluated h.evaluates true _ (Query.known_inputType? v.type))
  have hschema : (c.on s').schema = s' := rfl
  simp only [variableDefinitionIssues, variableTypeIssues_on h (h.shared_of_mem hv),
    repeatedDirectiveIssues_on h hd, typeNameIssues_on h [] v.baseMark hv, hschema, hinput, hdefault,
    directivesIssues_on h hd]

theorem allowedUse_on {v : VariableDefinition Nat} {t : TypeRef} (hv : shared v.type.base)
    (ht : shared t.base) (hasDefault : Bool) :
    (c.on s').allowedUse v t hasDefault = c.allowedUse v t hasDefault := by
  have hwhole : v.type.isSubTypeOf s' t = v.type.isSubTypeOf c.schema t := h.isSubTypeOf hv ht
  cases t with
  | nonNull u =>
    have hinner : v.type.isSubTypeOf s' u = v.type.isSubTypeOf c.schema u := h.isSubTypeOf hv ht
    simp only [allowedUse, on, hwhole, hinner]
  | list u => exact hwhole
  | named n => exact hwhole

end Variables

theorem siteArguments_on {sites : List Site} (hsites : ∀ site ∈ sites, c.ClearAt site) :
    (c.on s').siteArguments (sites.map (Site.widened c.schema extra))
      = (c.siteArguments sites).map (evaluatedSite c.schema) := by
  rw [siteArguments, siteArguments, List.flatMap_map, List.map_flatMap]
  refine flatMap_eq_of_mem fun site hsite => ?_
  have hdirectives := directiveArguments_on h (hsites site hsite).directives
  rw [Site.directives_widened, hdirectives, List.map_append]
  congr 1
  cases site with
  | field p d n =>
    simp only [Site.widened, List.map_map]
    refine List.map_congr_left fun a _ => ?_
    cases d with
    | none => rfl
    | some f => exact congrArg (Prod.mk a) (Field.argument?_evaluated f a.name)
  | _ => rfl

theorem siteArguments_shared {sites : List Site} (hsites : ∀ site ∈ sites, c.ClearAt site)
    {a : ArgumentSite} (ha : a ∈ c.siteArguments sites) : ∀ v ∈ a.2, shared v.type.base := by
  obtain ⟨site, hsite, ha⟩ := List.mem_flatMap.mp ha
  rcases List.mem_append.mp ha with ha | ha
  · cases site with
    | field p d n =>
      obtain ⟨b, -, rfl⟩ := List.mem_map.mp ha
      intro v hv
      obtain ⟨f, hf, hv⟩ := Option.bind_eq_some_iff.mp hv
      exact (shared_of_stands h (hsites _ hsite).stands f hf).2 v (List.mem_of_find?_eq_some hv)
    | _ => cases ha
  · exact directiveArguments_shared h ha

section Uses
variable (hc : c.Clear)
include hc

theorem operationArguments_on {o : Operation Nat} (ho : o ∈ c.operations) :
    (c.on s').operationArguments o = (c.operationArguments o).map (evaluatedSite c.schema) := by
  rw [operationArguments, operationArguments, operationSites_on h hc ho,
    directiveArguments_on h (hc.operations o ho).1,
    siteArguments_on h fun site hsite => hc.sites site (mem_sites_of_operation ho hsite),
    List.map_append]

theorem fragmentArguments_on {f : Fragment Nat} (hf : f ∈ c.fragments) :
    (c.on s').fragmentArguments f = (c.fragmentArguments f).map (evaluatedSite c.schema) := by
  rw [fragmentArguments, fragmentArguments, fragmentSites_on h hc hf,
    directiveArguments_on h (hc.fragments f hf).2,
    siteArguments_on h fun site hsite => hc.sites site (mem_sites_of_fragment hf hsite),
    List.map_append]

omit h hc in
theorem mem_of_fragment? {n : String} {f : Fragment Nat} (hf : c.fragment? n = some f) :
    f ∈ c.fragments :=
  List.mem_reverse.mp (List.mem_of_find?_eq_some hf)

omit h hc in
theorem mem_of_reach (fuel : Nat) (found : List String) (bodies : List (List (Selection Nat))) :
    ∀ f ∈ c.reach fuel found bodies, f ∈ c.fragments := by
  fun_induction c.reach fuel found bodies with
  | case1 => exact fun f hf => nomatch hf
  | case2 => exact fun f hf => nomatch hf
  | case3 found fuel top rest names fs ih =>
    intro f hf
    rcases List.mem_append.mp hf with hf | hf
    · obtain ⟨n, -, hn⟩ := List.mem_filterMap.mp hf
      exact mem_of_fragment? hn
    · exact ih f hf

theorem usedArguments_on {o : Operation Nat} (ho : o ∈ c.operations) :
    (c.on s').operationArguments o ++ ((c.on s').fragmentsOf o).flatMap (c.on s').fragmentArguments
      = (c.operationArguments o ++ (c.fragmentsOf o).flatMap c.fragmentArguments).map
          (evaluatedSite c.schema) := by
  have hfragments : (c.fragmentsOf o).flatMap (c.on s').fragmentArguments
      = ((c.fragmentsOf o).flatMap c.fragmentArguments).map (evaluatedSite c.schema) := by
    rw [List.map_flatMap]
    exact flatMap_eq_of_mem fun f hf => fragmentArguments_on h hc (mem_of_reach _ _ _ f hf)
  rw [operationArguments_on h hc ho, fragmentsOf_on h hc, hfragments, List.map_append]

theorem usedArguments_shared {o : Operation Nat} (ho : o ∈ c.operations) {a : ArgumentSite}
    (ha : a ∈ c.operationArguments o ++ (c.fragmentsOf o).flatMap c.fragmentArguments) :
    ∀ v ∈ a.2, shared v.type.base := by
  rcases List.mem_append.mp ha with ha | ha
  · rcases List.mem_append.mp ha with ha | ha
    · exact directiveArguments_shared h ha
    · exact siteArguments_shared h
        (fun site hsite => hc.sites site (mem_sites_of_operation ho hsite)) ha
  · obtain ⟨f, hf, ha⟩ := List.mem_flatMap.mp ha
    have hmem := mem_of_reach _ _ _ f hf
    rcases List.mem_append.mp ha with ha | ha
    · exact directiveArguments_shared h ha
    · exact siteArguments_shared h
        (fun site hsite => hc.sites site (mem_sites_of_fragment hmem hsite)) ha

theorem variableUses_on {o : Operation Nat} (ho : o ∈ c.operations) :
    (c.on s').variableUses o = c.variableUses o := by
  rw [variableUses, usedArguments_on h hc ho, List.flatMap_map]
  exact flatMap_eq_of_mem fun a ha => argumentUses_on h (usedArguments_shared h hc ho ha)

omit hc in
theorem shared_of_use {o : Operation Nat} {u : VariableUse} (hu : u ∈ c.variableUses o)
    {t : TypeRef} (ht : u.type? = some t) : shared t.base := by
  obtain ⟨a, -, hu⟩ := List.mem_flatMap.mp hu
  have hknown : Query.Known c.schema (a.2.bind fun v => c.schema.inputType? v.type) := by
    intro t ht
    obtain ⟨v, -, ht⟩ := Option.bind_eq_some_iff.mp ht
    exact Query.known_inputType? v.type t ht
  exact h.shared_of_any (Query.literalUses_known h.evaluates _ _ _ hknown a.1.value u hu t ht)

theorem variablePositionIssues_on {o : Operation Nat} (ho : o ∈ c.operations) :
    (c.on s').variablePositionIssues o = c.variablePositionIssues o := by
  rw [variablePositionIssues, variablePositionIssues, variableUses_on h hc ho]
  refine flatMap_eq_of_mem fun u hu => ?_
  cases hv : o.variableDefinitions.reverse.find? (·.name == u.name) with
  | none => rfl
  | some v =>
    cases ht : u.type? with
    | none => rfl
    | some t =>
      have hshared : shared v.type.base := h.shared_of_mem
        ((hc.operations o ho).2 v (List.mem_reverse.mp (List.mem_of_find?_eq_some hv))).1
      have hnone : (s'.shape? v.type.base).isNone = (c.schema.shape? v.type.base).isNone := by
        rw [h.shape? hshared, Schema.shape?]
        cases c.schema.type? v.type.base <;> rfl
      have hallowed := allowedUse_on h hshared (shared_of_use h hu ht) u.hasDefault
      simp only [hallowed, show (c.on s').schema = s' from rfl, hnone]

end Uses

section Search
variable (hc : c.Clear)
include hc

theorem narrow_at {q : Option NamedType} {ss : List (Selection Nat)}
    (hmem : .selections q ss ∈ c.sites) : NarrowSelections c.schema extra q ss := by
  have hstands : ∀ t ∈ q, t ∈ c.schema.types := (hc.sites _ hmem).stands
  refine narrowSelections_of_clear h q q (.inl rfl) hstands ss fun site hsite => ?_
  refine (hc.sites site ?_).clear
  rcases List.mem_append.mp hmem with hmem | hmem
  · obtain ⟨o, ho, hmem⟩ := List.mem_flatMap.mp hmem
    refine mem_sites_of_operation ho (List.mem_cons_of_mem _ ?_)
    rcases List.mem_cons.mp hmem with hmem | hmem
    · cases hmem
      exact hsite
    · exact Site.ofSelections_below _ _ hmem site hsite
  · obtain ⟨f, hf, hmem⟩ := List.mem_flatMap.mp hmem
    refine mem_sites_of_fragment hf (List.mem_cons_of_mem _ ?_)
    rcases List.mem_cons.mp hmem with hmem | hmem
    · cases hmem
      exact hsite
    · exact Site.ofSelections_below _ _ hmem site hsite

theorem sitesIssues_on : ∀ (sites : List Site) (owner : Option String),
    (∀ site ∈ sites, site ∈ c.sites) →
    (c.on s').sitesIssues owner (sites.map (Site.widened c.schema extra))
      = c.sitesIssues owner sites
  | [], _, _ => rfl
  | site :: r, owner, hsites => by
    have hrest := fun owner => sitesIssues_on r owner fun x hx => hsites x (List.mem_cons_of_mem site hx)
    have hmem := hsites site List.mem_cons_self
    have hsite := hc.sites site hmem
    have hown := siteIssues_on h hc hsite
    cases site with
    | selections q ss =>
      have hoverlap := Overlap.issues_on h hc hsite.stands owner (narrow_at h hc hmem)
      rw [List.map_cons, Site.widened, sitesIssues, sitesIssues, hoverlap, hrest]
    | _ =>
      rw [Site.widened] at hown
      simp only [List.map_cons, Site.widened, sitesIssues, hown, hrest]

omit h hc in
theorem subscriptionIssues_of_other {o : Operation Nat} (ho : o.kind ≠ .subscription) :
    c.subscriptionIssues o = .ok [] := by
  rw [subscriptionIssues, if_pos (bne_iff_ne.mpr ho)]
  rfl

theorem operationIssues_on (before : List (Operation Nat)) {o : Operation Nat}
    (ho : o ∈ c.operations) (hkind : o.kind ≠ .subscription) :
    (c.on s').operationIssues before o = c.operationIssues before o := by
  obtain ⟨hdirectives, hvariables⟩ := hc.operations o ho
  have hdefinitions : o.variableDefinitions.flatMap (c.on s').variableDefinitionIssues
      = o.variableDefinitions.flatMap c.variableDefinitionIssues :=
    flatMap_eq_of_mem fun v hv =>
      variableDefinitionIssues_on h (hvariables v hv).1 (hvariables v hv).2
  have hsites := sitesIssues_on h hc (c.operationSites o) none
    fun site hsite => mem_sites_of_operation ho hsite
  rw [← operationSites_on h hc ho] at hsites
  have hanonymous : (c.on s').anonymousIssues o = c.anonymousIssues o := rfl
  have hundefined : (c.on s').undefinedVariableIssues o = c.undefinedVariableIssues o := by
    rw [undefinedVariableIssues, undefinedVariableIssues, variableUses_on h hc ho]
  have hunused : (c.on s').unusedVariableIssues o = c.unusedVariableIssues o := by
    rw [unusedVariableIssues, unusedVariableIssues, variableUses_on h hc ho]
  simp only [operationIssues, hanonymous, subscriptionIssues_of_other hkind,
    repeatedDirectiveIssues_on h hdirectives, hdefinitions, directivesIssues_on h hdirectives, hsites,
    hundefined, hunused, variablePositionIssues_on h hc ho]

theorem fragmentIssues_on (before : List (Fragment Nat)) {f : Fragment Nat}
    (hf : f ∈ c.fragments) : (c.on s').fragmentIssues before f = c.fragmentIssues before f := by
  obtain ⟨hcondition, hdirectives⟩ := hc.fragments f hf
  have hname := Site.mem_names_of_composite? hcondition
  have htype : (c.on s').fragmentTypeIssues f = c.fragmentTypeIssues f := by
    rw [fragmentTypeIssues, fragmentTypeIssues, isOffComposite_on h (h.shared_of_mem hname)]
  have hsites := sitesIssues_on h hc (c.fragmentSites f) (some f.name)
    fun site hsite => mem_sites_of_fragment hf hsite
  rw [← fragmentSites_on h hc hf] at hsites
  simp only [fragmentIssues, htype, cycleIssues_on h hc, repeatedDirectiveIssues_on h hdirectives,
    typeNameIssues_on h [] f.conditionMark hname, directivesIssues_on h hdirectives, hsites]

theorem definitionsIssues_on (hw : c.Whole) (hdefinitions : c.definitionIssues = [])
    (hkinds : ∀ o ∈ c.operations, o.kind ≠ .subscription) :
    ∀ (ds earlier : List (Definition Nat)), (∀ d ∈ ds, d ∈ c.document) →
      (c.on s').definitionsIssues earlier ds = c.definitionsIssues earlier ds
  | [], _, _ => rfl
  | d :: ds, earlier, hmem => by
    have hrest := definitionsIssues_on hw hdefinitions hkinds ds (earlier ++ [d])
      fun x hx => hmem x (List.mem_cons_of_mem d hx)
    have hd := hmem d List.mem_cons_self
    have hown : (c.on s').ownIssues earlier d = c.ownIssues earlier d := by
      obtain ⟨o, rfl⟩ | ⟨f, rfl⟩ := executable_of_none hdefinitions hd
      · have ho := hw.mem_operations.mpr hd
        exact operationIssues_on h hc _ ho (hkinds o ho)
      · exact fragmentIssues_on h hc _ (hw.mem_fragments.mpr hd)
    rw [definitionsIssues_cons, definitionsIssues_cons, hown, hrest]

end Search

omit h in
theorem eq_nil_of_mapM {α β ε : Type} {f : α → Except ε β} {xs : List α} (hxs : xs.mapM f = .ok []) :
    xs = [] := by
  cases xs with
  | nil => rfl
  | cons x xs =>
    rw [List.mapM_cons] at hxs
    obtain ⟨y, -, hxs⟩ := Except.of_bind_ok hxs
    obtain ⟨ys, -, hxs⟩ := Except.of_bind_ok hxs
    cases hxs

omit h in
theorem obstacle?_of_other (hkinds : ∀ o ∈ c.operations, o.kind ≠ .subscription) :
    c.obstacle? = none := by
  refine List.findSome?_eq_none_iff.mpr fun o ho => ?_
  rw [subscriptionIssues_of_other (hkinds o ho)]

omit h in
/-- A document raises no issue if it can be searched and the search finds none. -/
theorem issues_eq_nil_iff (hkinds : ∀ o ∈ c.operations, o.kind ≠ .subscription) :
    c.issues = .ok [] ↔ c.isNested = false ∧ c.allIssues = [] := by
  rw [issues, obstacle?_of_other hkinds]
  cases c.isNested with
  | true => exact ⟨fun h => (nomatch h), fun h => (nomatch h.1)⟩
  | false =>
    refine ⟨fun h => ⟨rfl, ?_⟩, fun h => by rw [h.2]; rfl⟩
    cases hfound : (c.allIssues.take (mostIssues + 1)).mapM (·.mapError Obstacle.suggestion) with
    | error e =>
      simp only [hfound] at h
      cases h
    | ok found =>
      simp only [hfound] at h
      have hempty : found = [] := by
        injection h with h
        split at h
        · cases (List.append_eq_nil_iff.mp h).2
        · exact h
      rw [hempty] at hfound
      cases hall : c.allIssues with
      | nil => rfl
      | cons i is =>
        have hnil := eq_nil_of_mapM hfound
        rw [hall] at hnil
        cases hnil

/-- A document of queries and mutations without issues has none in the wide schema. -/
theorem issues_on (hw : c.Whole) (hkinds : ∀ o ∈ c.operations, o.kind ≠ .subscription)
    (honce : ∀ d ∈ c.appliedDirectives, (c.schema.directives.filter (·.name == d.name)).length ≤ 1)
    (hnone : c.issues = .ok []) : (c.on s').issues = .ok [] := by
  obtain ⟨hnested, hall⟩ := (issues_eq_nil_iff hkinds).mp hnone
  have hc := clear_of_allIssues hw hall honce
  have hdefinitions := definitionIssues_of_none hall
  refine (issues_eq_nil_iff (c := c.on s') hkinds).mpr ⟨hnested, ?_⟩
  have hunused : (c.on s').unusedFragmentIssues = c.unusedFragmentIssues := by
    simp only [unusedFragmentIssues, fragmentsOf_on h hc]
    rfl
  have hown := definitionsIssues_on h hc hw hdefinitions hkinds c.document [] fun _ hd => hd
  rw [← hall, allIssues, allIssues, hunused, show (c.on s').document = c.document from rfl, hown]
  rfl

end On
end QueryContext
end Subgraph
