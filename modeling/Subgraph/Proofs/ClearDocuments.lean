import Subgraph.Proofs.WidenedSites

/-!
# Documents without issues

A document against which no rule raises an issue asks only for what is there: every directive is
known, every fragment and every variable names a known type, and every field that is selected is a
field of the type that it is selected from.
-/

namespace Subgraph
namespace QueryContext
variable {c : QueryContext}

/-- A context that holds the operations and the fragments of its document. -/
structure Whole (c : QueryContext) : Prop where
  operations : c.operations = operationsOf c.document
  fragments : c.fragments = fragmentsAmong c.document

theorem whole_ofDocument (s : Schema) (doc : Document Nat) : (ofDocument s doc).Whole := ⟨rfl, rfl⟩

theorem Whole.mem_operations (hc : c.Whole) {o : Operation Nat} :
    o ∈ c.operations ↔ .operation o ∈ c.document := by
  rw [hc.operations, operationsOf, List.mem_filterMap]
  constructor
  · rintro ⟨d, hd, ho⟩
    cases d with
    | operation o' => cases ho; exact hd
    | _ => cases ho
  · exact fun ho => ⟨_, ho, rfl⟩

theorem Whole.mem_fragments (hc : c.Whole) {f : Fragment Nat} :
    f ∈ c.fragments ↔ .fragment f ∈ c.document := by
  rw [hc.fragments, fragmentsAmong, List.mem_filterMap]
  constructor
  · rintro ⟨d, hd, hf⟩
    cases d with
    | fragment f' => cases hf; exact hd
    | _ => cases hf
  · exact fun hf => ⟨_, hf, rfl⟩

/-- The directives that stand anywhere in a document. -/
def appliedDirectives (c : QueryContext) : List (Directive Nat) :=
  c.operations.flatMap (fun o => o.directives ++ o.variableDefinitions.flatMap (·.directives))
    ++ c.fragments.flatMap (·.directives) ++ c.sites.flatMap (·.directives)

section Definitions
variable (h : c.definitionIssues = [])
include h

theorem executable_of_none {d : Definition Nat} (hd : d ∈ c.document) :
    (∃ o, d = .operation o) ∨ ∃ f, d = .fragment f := by
  have hnone := List.flatMap_eq_nil_iff.mp h d hd
  cases d with
  | operation o => exact .inl ⟨o, rfl⟩
  | fragment f => exact .inr ⟨f, rfl⟩
  | _ => cases hnone

theorem definedTypes_of_none : c.definedTypes = [] := by
  refine List.filterMap_eq_nil_iff.mpr fun d hd => ?_
  obtain ⟨o, rfl⟩ | ⟨f, rfl⟩ := executable_of_none h hd <;> rfl

theorem ownDirectives_of_none : c.ownDirectives = [] := by
  refine List.filterMap_eq_nil_iff.mpr fun d hd => ?_
  obtain ⟨o, rfl⟩ | ⟨f, rfl⟩ := executable_of_none h hd <;> rfl

end Definitions

theorem found_of_none {location : String} {ds : List (Directive Nat)}
    (h : c.directivesIssues location ds = []) {d : Directive Nat} (hd : d ∈ ds) :
    (c.directive? d.name).isSome = true := by
  have hnone := List.flatMap_eq_nil_iff.mp h d hd
  simp only [directiveIssues, List.append_eq_nil_iff, List.map_eq_nil_iff] at hnone
  have hknown := hnone.1.1.1.1
  rw [knownDirectiveIssues] at hknown
  cases hfound : c.directive? d.name with
  | none => rw [hfound] at hknown; cases hknown
  | some t => rfl

theorem known_of_none {always : List String} {mark : Nat} {n : String}
    (h : c.typeNameIssues always mark n = []) : n ∈ always ++ c.knownTypes := by
  by_contra hn
  have hcontains : ¬ (always ++ c.knownTypes).contains n = true :=
    fun hmem => hn (List.contains_iff_mem.mp hmem)
  simp only [typeNameIssues, if_neg hcontains] at h
  cases h

theorem mem_names_of_none (hdefined : c.definedTypes = []) {mark : Nat} {n : String}
    (h : c.typeNameIssues [] mark n = []) : n ∈ c.schema.types.map (·.name) := by
  have hmem := known_of_none h
  rwa [List.nil_append, knownTypes, hdefined, List.append_nil] at hmem

theorem type?_of_none (hdefined : c.definedTypes = []) {mark : Nat} {n : String}
    (h : c.typeNameIssues [] mark n = []) : ∃ t, c.schema.type? n = some t := by
  obtain ⟨t, ht, hname⟩ := List.mem_map.mp (mem_names_of_none hdefined h)
  exact Option.isSome_iff_exists.mp (List.find?_isSome.mpr ⟨t, ht, beq_iff_eq.mpr hname⟩)

theorem composite_of_none (hdefined : c.definedTypes = []) {mark : Nat} {n : String}
    (hname : c.typeNameIssues [] mark n = []) (hoff : c.isOffComposite n = false) :
    (c.schema.composite? n).isSome = true := by
  obtain ⟨t, ht⟩ := type?_of_none hdefined hname
  rw [isOffComposite, Schema.shape?, ht, Option.map_some, Option.any_some] at hoff
  rw [Schema.composite?, ht, Option.filter_some]
  cases hshape : t.shape.isComposite with
  | true => rfl
  | false => rw [hshape] at hoff; cases hoff

theorem clear_of_none {site : Site} (hdefined : c.definedTypes = []) (h : c.siteIssues site = []) :
    site.Clear c.schema := by
  cases site with
  | field p d n =>
    simp only [siteIssues, List.append_eq_nil_iff, List.map_eq_nil_iff] at h
    obtain ⟨⟨⟨⟨⟨⟨hleaf, hfield⟩, -⟩, -⟩, -⟩, -⟩, -⟩ := h
    constructor
    · intro hp
      cases d with
      | some f => rfl
      | none =>
        obtain ⟨t, rfl⟩ := Option.isSome_iff_exists.mp hp
        cases hfield
    · intro f hf hshape
      cases hf
      cases hss : n.selections with
      | nil => rfl
      | cons x xs =>
        simp only [leafSelectionIssues, hshape, hss, List.isEmpty_cons, Bool.not_false,
          Bool.and_self, if_true] at hleaf
        cases hleaf
  | inline p m x? ds =>
    simp only [siteIssues, List.append_eq_nil_iff] at h
    obtain ⟨⟨⟨⟨hcondition, -⟩, -⟩, hname⟩, -⟩ := h
    intro x hx
    cases hx
    simp only [Option.toList_some, List.flatMap_cons, List.flatMap_nil, List.append_nil,
      List.map_eq_nil_iff] at hcondition hname
    refine composite_of_none hdefined hname ?_
    cases hoff : c.isOffComposite x.2 with
    | false => rfl
    | true => rw [conditionIssues, hoff] at hcondition; cases hcondition
  | _ => trivial

theorem found_at_of_none {site : Site} (h : c.siteIssues site = []) {d : Directive Nat}
    (hd : d ∈ site.directives) : (c.directive? d.name).isSome = true := by
  cases site with
  | field p f n =>
    simp only [siteIssues, List.append_eq_nil_iff] at h
    exact found_of_none h.2 hd
  | spread p m nm n ds =>
    simp only [siteIssues, List.append_eq_nil_iff] at h
    exact found_of_none h.2 hd
  | inline p m x? ds =>
    simp only [siteIssues, List.append_eq_nil_iff] at h
    exact found_of_none h.2 hd
  | fieldEnd p f n => cases hd
  | selections p ss => cases hd

theorem siteIssues_of_none : ∀ (sites : List Site) (owner : Option String) (p : Overlap.Progress),
    ((c.sitesIssues owner sites).run p).1 = [] → ∀ site ∈ sites, c.siteIssues site = []
  | [], _, _, _, _, hsite => by cases hsite
  | .selections q ss :: r, owner, p, h, site, hsite => by
    obtain ⟨-, hrest⟩ := List.append_eq_nil_iff.mp h
    rcases List.mem_cons.mp hsite with rfl | hsite
    · rfl
    · exact siteIssues_of_none r none _ hrest site hsite
  | .field q d n :: r, owner, p, h, site, hsite => by
    obtain ⟨hfirst, hrest⟩ := List.append_eq_nil_iff.mp h
    rcases List.mem_cons.mp hsite with rfl | hsite
    · exact hfirst
    · exact siteIssues_of_none r owner p hrest site hsite
  | .fieldEnd q d n :: r, owner, p, h, site, hsite => by
    obtain ⟨hfirst, hrest⟩ := List.append_eq_nil_iff.mp h
    rcases List.mem_cons.mp hsite with rfl | hsite
    · exact hfirst
    · exact siteIssues_of_none r owner p hrest site hsite
  | .spread q m nm n ds :: r, owner, p, h, site, hsite => by
    obtain ⟨hfirst, hrest⟩ := List.append_eq_nil_iff.mp h
    rcases List.mem_cons.mp hsite with rfl | hsite
    · exact hfirst
    · exact siteIssues_of_none r owner p hrest site hsite
  | .inline q m x? ds :: r, owner, p, h, site, hsite => by
    obtain ⟨hfirst, hrest⟩ := List.append_eq_nil_iff.mp h
    rcases List.mem_cons.mp hsite with rfl | hsite
    · exact hfirst
    · exact siteIssues_of_none r owner p hrest site hsite

/-- The search for the issues of one definition. -/
def ownIssues (c : QueryContext) (earlier : List (Definition Nat)) :
    Definition Nat → Overlap.Search (List (Suggestion.Attempt Issue))
  | .operation o => c.operationIssues (operationsOf earlier) o
  | .fragment f => c.fragmentIssues (fragmentsAmong earlier) f
  | d => pure (c.foreignIssues earlier d)

theorem definitionsIssues_cons (earlier : List (Definition Nat)) (d : Definition Nat)
    (ds : List (Definition Nat)) : c.definitionsIssues earlier (d :: ds) = (do
      return (← c.ownIssues earlier d) ++ (← c.definitionsIssues (earlier ++ [d]) ds)) := by
  cases d <;> rfl

theorem ownIssues_of_none : ∀ (ds earlier : List (Definition Nat)) (p : Overlap.Progress),
    ((c.definitionsIssues earlier ds).run p).1 = [] →
    ∀ d ∈ ds, ∃ before q, ((c.ownIssues before d).run q).1 = []
  | [], _, _, _, d, hd => by cases hd
  | d :: ds, earlier, p, h, d', hd => by
    rw [definitionsIssues_cons] at h
    obtain ⟨hfirst, hrest⟩ := List.append_eq_nil_iff.mp h
    rcases List.mem_cons.mp hd with rfl | hd
    · exact ⟨earlier, p, hfirst⟩
    · exact ownIssues_of_none ds _ _ hrest d' hd

theorem operation_of_none {before : List (Operation Nat)} {o : Operation Nat}
    {p : Overlap.Progress} (h : ((c.operationIssues before o).run p).1 = []) :
    (∀ v ∈ o.variableDefinitions, c.variableDefinitionIssues v = [])
      ∧ c.directivesIssues o.kind.name.toUpper o.directives = []
      ∧ ((c.sitesIssues none (c.operationSites o)).run p).1 = [] := by
  obtain ⟨hrest, -⟩ := List.append_eq_nil_iff.mp h
  obtain ⟨hrest, -⟩ := List.append_eq_nil_iff.mp hrest
  obtain ⟨hrest, -⟩ := List.append_eq_nil_iff.mp hrest
  obtain ⟨hstart, hsites⟩ := List.append_eq_nil_iff.mp hrest
  obtain ⟨hrest, hdirectives⟩ := List.append_eq_nil_iff.mp hstart
  exact ⟨List.flatMap_eq_nil_iff.mp (List.append_eq_nil_iff.mp hrest).2, hdirectives, hsites⟩

theorem fragment_of_none (hdefined : c.definedTypes = []) {before : List (Fragment Nat)}
    {f : Fragment Nat} {p : Overlap.Progress} (h : ((c.fragmentIssues before f).run p).1 = []) :
    (c.schema.composite? f.condition).isSome = true
      ∧ c.directivesIssues "FRAGMENT_DEFINITION" f.directives = []
      ∧ ((c.sitesIssues (some f.name) (c.fragmentSites f)).run p).1 = [] := by
  obtain ⟨hstart, hsites⟩ := List.append_eq_nil_iff.mp h
  simp only [List.append_eq_nil_iff, List.map_eq_nil_iff] at hstart
  obtain ⟨⟨⟨⟨⟨htype, -⟩, -⟩, -⟩, hname⟩, hdirectives⟩ := hstart
  refine ⟨composite_of_none hdefined hname ?_, hdirectives, hsites⟩
  cases hoff : c.isOffComposite f.condition with
  | false => rfl
  | true => rw [fragmentTypeIssues, hoff] at htype; cases htype

theorem definitionIssues_of_none (h : c.allIssues = []) : c.definitionIssues = [] := by
  simp only [allIssues, List.append_eq_nil_iff, List.map_eq_nil_iff] at h
  exact h.1.1

section Rules
variable (hc : c.Whole) (h : c.allIssues = [])
include hc h

theorem operationIssues_of_none {o : Operation Nat} (ho : o ∈ c.operations) :
    ∃ before p, ((c.operationIssues before o).run p).1 = [] := by
  simp only [allIssues, List.append_eq_nil_iff] at h
  obtain ⟨before, p, hnone⟩ := ownIssues_of_none _ _ _ h.1.2 _ (hc.mem_operations.mp ho)
  exact ⟨operationsOf before, p, hnone⟩

theorem fragmentIssues_of_none {f : Fragment Nat} (hf : f ∈ c.fragments) :
    ∃ before p, ((c.fragmentIssues before f).run p).1 = [] := by
  simp only [allIssues, List.append_eq_nil_iff] at h
  obtain ⟨before, p, hnone⟩ := ownIssues_of_none _ _ _ h.1.2 _ (hc.mem_fragments.mp hf)
  exact ⟨fragmentsAmong before, p, hnone⟩

theorem inputs_of_allIssues {o : Operation Nat} (ho : o ∈ c.operations) :
    ∀ v ∈ o.variableDefinitions, (c.schema.shape? v.type.base).any TypeShape.isInput = true := by
  intro v hv
  have hdefined := definedTypes_of_none (definitionIssues_of_none h)
  obtain ⟨before, p, hnone⟩ := operationIssues_of_none hc h ho
  have hvariable := (operation_of_none hnone).1 v hv
  simp only [variableDefinitionIssues, List.append_eq_nil_iff, List.map_eq_nil_iff] at hvariable
  obtain ⟨⟨⟨⟨htype, -⟩, hname⟩, -⟩, -⟩ := hvariable
  obtain ⟨t, ht⟩ := type?_of_none hdefined hname
  simp only [variableTypeIssues, Schema.shape?, ht, Option.map_some, Option.all_some] at htype
  rw [Schema.shape?, ht, Option.map_some, Option.any_some]
  cases hinput : t.shape.isInput with
  | true => rfl
  | false => rw [hinput] at htype; cases htype

/-- What a document asks of its operations, its fragments and their places is there where no rule
raises an issue and no directive in it is defined twice. -/
theorem clear_of_allIssues
    (honce : ∀ d ∈ c.appliedDirectives, (c.schema.directives.filter (·.name == d.name)).length ≤ 1) :
    c.Clear := by
  have hdefinitions := definitionIssues_of_none h
  have hdefined := definedTypes_of_none hdefinitions
  have hknows : ∀ d ∈ c.appliedDirectives, (c.directive? d.name).isSome = true → c.Knows d :=
    fun d hd hfound => ⟨ownDirectives_of_none hdefinitions, hfound, honce d hd⟩
  have hsite : ∀ site ∈ c.sites, site.Stands c.schema → c.siteIssues site = [] → c.ClearAt site :=
    fun site hmem hstands hnone => ⟨hstands, clear_of_none hdefined hnone, fun d hd =>
      hknows d (List.mem_append_right _ (List.mem_flatMap.mpr ⟨site, hmem, hd⟩))
        (found_at_of_none hnone hd)⟩
  refine ⟨hdefined, fun o ho => ?_, fun f hf => ?_, fun site hmem => ?_⟩
  · obtain ⟨before, p, hnone⟩ := operationIssues_of_none hc h ho
    obtain ⟨hvariables, hdirectives, -⟩ := operation_of_none hnone
    have happlied : ∀ d ∈ o.directives ++ o.variableDefinitions.flatMap (·.directives),
        d ∈ c.appliedDirectives := fun d hd =>
      List.mem_append_left _ (List.mem_append_left _ (List.mem_flatMap.mpr ⟨o, ho, hd⟩))
    refine ⟨fun d hd => hknows d (happlied d (List.mem_append_left _ hd))
      (found_of_none hdirectives hd), fun v hv => ?_⟩
    have hvariable := hvariables v hv
    simp only [variableDefinitionIssues, List.append_eq_nil_iff] at hvariable
    have hname := mem_names_of_none hdefined hvariable.1.1.2
    exact ⟨hname, fun d hd => hknows d
      (happlied d (List.mem_append_right _ (List.mem_flatMap.mpr ⟨v, hv, hd⟩)))
      (found_of_none hvariable.2 hd)⟩
  · obtain ⟨before, p, hnone⟩ := fragmentIssues_of_none hc h hf
    obtain ⟨hcondition, hdirectives, -⟩ := fragment_of_none hdefined hnone
    exact ⟨hcondition, fun d hd => hknows d (List.mem_append_left _ (List.mem_append_right _
      (List.mem_flatMap.mpr ⟨f, hf, hd⟩))) (found_of_none hdirectives hd)⟩
  · rcases List.mem_append.mp hmem with hin | hin
    · obtain ⟨o, ho, hin⟩ := List.mem_flatMap.mp hin
      obtain ⟨before, p, hnone⟩ := operationIssues_of_none hc h ho
      refine hsite site hmem ?_ (siteIssues_of_none _ _ p (operation_of_none hnone).2.2 site hin)
      rcases List.mem_cons.mp hin with rfl | hin
      · exact operationRoot_mem o
      · exact Site.ofSelections_stands _ (operationRoot_mem o) _ site hin
    · obtain ⟨f, hf, hin⟩ := List.mem_flatMap.mp hin
      obtain ⟨before, p, hnone⟩ := fragmentIssues_of_none hc h hf
      refine hsite site hmem ?_
        (siteIssues_of_none _ _ p (fragment_of_none hdefined hnone).2.2 site hin)
      rcases List.mem_cons.mp hin with rfl | hin
      · exact Site.mem_composite?
      · exact Site.ofSelections_stands _ Site.mem_composite? _ site hin

end Rules

end QueryContext
end Subgraph
