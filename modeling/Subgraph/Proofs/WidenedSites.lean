import Subgraph.Proofs.WidenedRules

/-!
# Places of a document in wide and narrow schemas

The places of a document are visited in the same order against a schema and against one that widens
it, with the widened types and the fields with the values of their defaults, as long as every field
that is selected is there and every type that a fragment names is known. At each place the issues
are the same.
-/

namespace Subgraph

namespace Site

/-- The place in a wide schema. -/
def widened (s : Schema) (extra : NamedType → List Field) : Site → Site
  | .field p d n => .field (p.map fun t => t.widened s (extra t)) (d.map (Field.evaluated s)) n
  | .fieldEnd p d n => .fieldEnd (p.map fun t => t.widened s (extra t)) (d.map (Field.evaluated s)) n
  | .spread p m nm n ds => .spread (p.map fun t => t.widened s (extra t)) m nm n ds
  | .inline p m c ds => .inline (p.map fun t => t.widened s (extra t)) m c ds
  | .selections p ss => .selections (p.map fun t => t.widened s (extra t)) ss

@[simp] theorem directives_widened (s : Schema) (extra : NamedType → List Field) (site : Site) :
    (site.widened s extra).directives = site.directives := by
  cases site <;> rfl

/-- A field that is selected from a type is there, with selections only if it has fields itself. A
fragment names a type that is there and has fields. -/
def Clear (s : Schema) : Site → Prop
  | .field p d n => (p.isSome → d.isSome)
    ∧ ∀ f ∈ d, (s.shape? f.type.base).any TypeShape.isLeaf = true → n.selections = []
  | .inline _ _ c _ => ∀ x ∈ c, (s.composite? x.2).isSome = true
  | _ => True

/-- The types and the field of a place are those of a schema. -/
def Stands (s : Schema) : Site → Prop
  | .field p d n => (∀ t ∈ p, t ∈ s.types) ∧ d = p.bind (s.fieldOf? · n.name)
  | .fieldEnd p d n => (∀ t ∈ p, t ∈ s.types) ∧ d = p.bind (s.fieldOf? · n.name)
  | .spread p _ _ _ _ => ∀ t ∈ p, t ∈ s.types
  | .inline p _ _ _ => ∀ t ∈ p, t ∈ s.types
  | .selections p _ => ∀ t ∈ p, t ∈ s.types

section Stands
variable {s : Schema}

theorem mem_composite? {n : String} : ∀ t ∈ s.composite? n, t ∈ s.types := by
  intro t ht
  exact (Schema.mem_of_type? (Option.filter_eq_some_iff.mp ht).1).1

theorem mem_names_of_composite? {n : String} (h : (s.composite? n).isSome = true) :
    n ∈ s.types.map (·.name) := by
  obtain ⟨t, ht⟩ := Option.isSome_iff_exists.mp h
  obtain ⟨hmem, rfl⟩ := Schema.mem_of_type? (Option.filter_eq_some_iff.mp ht).1
  exact List.mem_map_of_mem hmem

theorem mem_inner {d : Option Field} :
    ∀ t ∈ d.bind fun f => s.composite? f.type.base, t ∈ s.types := by
  intro t ht
  obtain ⟨f, -, ht⟩ := Option.bind_eq_some_iff.mp ht
  exact mem_composite? t ht

/-- The type that the selections of an inline fragment stand in. -/
def conditioned (s : Schema) (p : Option NamedType) : Option (Nat × String) → Option NamedType
  | some (_, n) => s.composite? n
  | none => p

theorem ofSelection_inline (s : Schema) (p : Option NamedType) (m : Nat) (c : Option (Nat × String))
    (ds : List (Directive Nat)) (ss : List (Selection Nat)) :
    ofSelection s p (.inline m c ds ss) = .inline p m c ds :: .selections (conditioned s p c) ss
      :: ofSelections s (conditioned s p c) ss := by
  cases c with
  | none => rw [ofSelection]; rfl
  | some x => rw [ofSelection]; rfl

theorem mem_conditioned {p : Option NamedType} (hp : ∀ t ∈ p, t ∈ s.types)
    (c : Option (Nat × String)) : ∀ t ∈ conditioned s p c, t ∈ s.types := by
  cases c with
  | none => exact hp
  | some x => exact mem_composite?

mutual

theorem ofSelection_stands : ∀ (p : Option NamedType), (∀ t ∈ p, t ∈ s.types) →
    ∀ x : Selection Nat, ∀ site ∈ ofSelection s p x, site.Stands s
  | p, hp, .field m l n as ds bm ss, site, hsite => by
    rw [ofSelection] at hsite
    rcases List.mem_cons.mp hsite with rfl | hsite
    · exact ⟨hp, rfl⟩
    rcases List.mem_append.mp hsite with hsite | hsite
    · rcases List.mem_append.mp hsite with hsite | hsite
      · split at hsite
        · cases hsite
        · rw [List.mem_singleton.mp hsite]
          exact mem_inner
      · exact ofSelections_stands _ mem_inner ss site hsite
    · rw [List.mem_singleton.mp hsite]
      exact ⟨hp, rfl⟩
  | p, hp, .spread m nm n ds, site, hsite => by
    rw [ofSelection] at hsite
    rw [List.mem_singleton.mp hsite]
    exact hp
  | p, hp, .inline m c ds ss, site, hsite => by
    rw [ofSelection_inline] at hsite
    rcases List.mem_cons.mp hsite with rfl | hsite
    · exact hp
    rcases List.mem_cons.mp hsite with rfl | hsite
    · exact mem_conditioned hp c
    · exact ofSelections_stands _ (mem_conditioned hp c) ss site hsite

theorem ofSelections_stands : ∀ (p : Option NamedType), (∀ t ∈ p, t ∈ s.types) →
    ∀ ss : List (Selection Nat), ∀ site ∈ ofSelections s p ss, site.Stands s
  | _, _, [], site, hsite => by cases hsite
  | p, hp, x :: xs, site, hsite => by
    rw [ofSelections] at hsite
    rcases List.mem_append.mp hsite with hsite | hsite
    · exact ofSelection_stands p hp x site hsite
    · exact ofSelections_stands p hp xs site hsite

end

end Stands

section Widened
variable {extra : NamedType → List Field} {shared : String → Prop} {s s' : Schema}
  (h : s.Widens extra shared s')
include h

theorem bind_fieldOf?_widened {p : Option NamedType} (hp : ∀ t ∈ p, t ∈ s.types) {n : String}
    (hclear : p.isSome → (p.bind (s.fieldOf? · n)).isSome) :
    (p.map fun t => t.widened s (extra t)).bind (s'.fieldOf? · n)
      = (p.bind (s.fieldOf? · n)).map (Field.evaluated s) := by
  cases p with
  | none => rfl
  | some t =>
    obtain ⟨f, hf⟩ := Option.isSome_iff_exists.mp (hclear rfl)
    simp only [Option.bind_some, Option.map_some] at hf ⊢
    rw [h.fieldOf?_of_some (hp t rfl) hf, hf, Option.map_some]

theorem inner_widened {p : Option NamedType} (hp : ∀ t ∈ p, t ∈ s.types) (n : String) :
    (((p.bind (s.fieldOf? · n)).map (Field.evaluated s)).bind fun f => s'.composite? f.type.base)
      = ((p.bind (s.fieldOf? · n)).bind fun f => s.composite? f.type.base).map
          fun t => t.widened s (extra t) := by
  cases hf : p.bind (s.fieldOf? · n) with
  | none => rfl
  | some f =>
    obtain ⟨t, ht, hfield⟩ := Option.bind_eq_some_iff.mp hf
    exact h.composite? (h.shared_fieldOf? (hp t ht) hfield).1

end Widened

section Widened
variable {extra : NamedType → List Field} {shared : String → Prop} {s s' : Schema}

mutual

theorem ofSelection_widened (h : s.Widens extra shared s') :
    ∀ (p : Option NamedType), (∀ t ∈ p, t ∈ s.types) → ∀ x : Selection Nat,
      (∀ site ∈ ofSelection s p x, site.Clear s) →
      ofSelection s' (p.map fun t => t.widened s (extra t)) x
        = (ofSelection s p x).map (widened s extra)
  | p, hp, .field m l n as ds bm ss, hclear => by
    rw [ofSelection] at hclear
    have hfield := bind_fieldOf?_widened h hp (hclear _ List.mem_cons_self).1
    have hbelow := ofSelections_widened h _ mem_inner ss fun site hsite =>
      hclear site (List.mem_cons_of_mem _ (List.mem_append_left _ (List.mem_append_right _ hsite)))
    simp only [ofSelection, hfield, inner_widened h hp n, hbelow, List.map_cons, List.map_append,
      List.map_nil]
    split <;> rfl
  | p, hp, .spread m nm n ds, _ => by simp only [ofSelection]; rfl
  | p, hp, .inline m c ds ss, hclear => by
    rw [ofSelection_inline] at hclear
    have hinner : conditioned s' (p.map fun t => t.widened s (extra t)) c
        = (conditioned s p c).map fun t => t.widened s (extra t) := by
      cases c with
      | none => rfl
      | some x => exact h.composite? (h.shared_of_mem (mem_names_of_composite? (hclear _ List.mem_cons_self x rfl)))
    have hbelow := ofSelections_widened h _ (mem_conditioned hp c) ss fun site hsite =>
      hclear site (List.mem_cons_of_mem _ (List.mem_cons_of_mem _ hsite))
    rw [ofSelection_inline, ofSelection_inline, hinner, hbelow]
    rfl

theorem ofSelections_widened (h : s.Widens extra shared s') :
    ∀ (p : Option NamedType), (∀ t ∈ p, t ∈ s.types) → ∀ ss : List (Selection Nat),
      (∀ site ∈ ofSelections s p ss, site.Clear s) →
      ofSelections s' (p.map fun t => t.widened s (extra t)) ss
        = (ofSelections s p ss).map (widened s extra)
  | _, _, [], _ => rfl
  | p, hp, x :: xs, hclear => by
    rw [ofSelections] at hclear
    rw [ofSelections, ofSelections, List.map_append,
      ofSelection_widened h p hp x fun site hsite => hclear site (List.mem_append_left _ hsite),
      ofSelections_widened h p hp xs fun site hsite => hclear site (List.mem_append_right _ hsite)]

end

end Widened
end Site

namespace QueryContext

/-- A place where all is there that the document asks for. -/
structure ClearAt (c : QueryContext) (site : Site) : Prop where
  stands : site.Stands c.schema
  clear : site.Clear c.schema
  directives : ∀ d ∈ site.directives, c.Knows d

/-- A document that asks only for what is there. -/
structure Clear (c : QueryContext) : Prop where
  undefined : c.definedTypes = []
  operations : ∀ o ∈ c.operations, (∀ d ∈ o.directives, c.Knows d)
    ∧ ∀ v ∈ o.variableDefinitions,
        v.type.base ∈ c.schema.types.map (·.name) ∧ ∀ d ∈ v.directives, c.Knows d
  fragments : ∀ f ∈ c.fragments, (c.schema.composite? f.condition).isSome = true
    ∧ ∀ d ∈ f.directives, c.Knows d
  sites : ∀ site ∈ c.sites, c.ClearAt site

section On
variable {extra : NamedType → List Field} {shared : String → Prop} {s' : Schema} {c : QueryContext}
  (h : c.schema.Widens extra shared s')
include h

theorem isOffComposite_on {n : String} (hn : shared n) :
    (c.on s').isOffComposite n = c.isOffComposite n :=
  h.any hn fun _ _ shape => by rw [TypeShape.isComposite_widened]

theorem conditionIssues_on (mark : Nat) {n : String} (hn : shared n) :
    (c.on s').conditionIssues mark n = c.conditionIssues mark n := by
  rw [conditionIssues, conditionIssues, isOffComposite_on h hn]

theorem typeNameIssues_on (always : List String) (mark : Nat) {n : String}
    (hn : n ∈ c.schema.types.map (·.name)) :
    (c.on s').typeNameIssues always mark n = c.typeNameIssues always mark n := by
  obtain ⟨t, ht, rfl⟩ := List.mem_map.mp hn
  have hwide : t.name ∈ s'.types.map (·.name) := by
    have htype := h.type?_of_some (Schema.type?_of_mem h.wellFormed.names ht)
    obtain ⟨hmem, hname⟩ := Schema.mem_of_type? htype
    exact List.mem_map.mpr ⟨_, hmem, hname⟩
  have hknown : ∀ b : QueryContext, t.name ∈ b.schema.types.map (·.name) →
      b.typeNameIssues always mark t.name = [] := by
    intro b hb
    have hcontains : (always ++ b.knownTypes).contains t.name = true :=
      List.contains_iff_mem.mpr (List.mem_append_right _ (List.mem_append_left _ hb))
    simp only [typeNameIssues, hcontains, if_true]
  rw [hknown c hn, hknown (c.on s') hwide]

section Field
variable {p : Option NamedType} {d : Option Field} {n : FieldNode}
  (hd : ∀ f ∈ d, shared f.type.base ∧ ∀ v ∈ f.arguments, shared v.type.base)
include hd

theorem leafSelectionIssues_on :
    (c.on s').leafSelectionIssues (d.map (Field.evaluated c.schema)) n
      = c.leafSelectionIssues d n := by
  cases d with
  | none => rfl
  | some f =>
    have hleaf : (s'.shape? f.type.base).any TypeShape.isLeaf
        = (c.schema.shape? f.type.base).any TypeShape.isLeaf :=
      h.any (hd f rfl).1 TypeShape.isLeaf_widened
    simp only [leafSelectionIssues, Option.map_some, Field.evaluated_type, on, hleaf]

omit hd h in
theorem unknownArgumentIssues_on (a : Argument Nat) :
    unknownArgumentIssues (p.map fun t => t.widened c.schema (extra t))
        (d.map (Field.evaluated c.schema)) n a = unknownArgumentIssues p d n a := by
  cases p with
  | none => cases d <;> rfl
  | some t =>
    cases d with
    | none => rfl
    | some f =>
      simp only [unknownArgumentIssues, Option.map_some, Field.argument?_evaluated, Option.isSome_map,
        Field.evaluated_arguments, List.map_map]
      rfl

theorem argumentIssues_on :
    (c.on s').argumentIssues (p.map fun t => t.widened c.schema (extra t))
        (d.map (Field.evaluated c.schema)) n = c.argumentIssues p d n := by
  refine flatMap_eq_of_mem fun a _ => ?_
  have hsite : (a, (d.map (Field.evaluated c.schema)).bind (·.argument? a.name))
      = evaluatedSite c.schema (a, d.bind (·.argument? a.name)) := by
    cases d with
    | none => rfl
    | some f => exact congrArg (Prod.mk a) (Field.argument?_evaluated f a.name)
  rw [unknownArgumentIssues_on, hsite, argumentLiteralIssues_on h]
  intro v hv
  obtain ⟨f, hf, hv⟩ := Option.bind_eq_some_iff.mp hv
  exact (hd f hf).2 v (List.mem_of_find?_eq_some hv)

omit hd h in
theorem requiredArgumentIssues_on :
    (c.on s').requiredArgumentIssues (d.map (Field.evaluated c.schema)) n
      = c.requiredArgumentIssues d n := by
  cases d with
  | none => rfl
  | some f =>
    have hrequired := filter_required_evaluated c.schema s' f.arguments
      fun m => n.arguments.any (·.name == m)
    simp only [requiredArgumentIssues, Option.map_some, Field.evaluated_arguments]
    rw [show (c.on s').schema = s' from rfl, hrequired, List.map_map]
    rfl

end Field

omit h in
theorem unknownFieldIssues_on {p : Option NamedType} {d : Option Field} {n : FieldNode}
    (hclear : p.isSome → d.isSome) :
    (c.on s').unknownFieldIssues (p.map fun t => t.widened c.schema (extra t))
        (d.map (Field.evaluated c.schema)) n = c.unknownFieldIssues p d n := by
  cases p with
  | none => rfl
  | some t =>
    cases d with
    | none => cases hclear rfl
    | some f => rfl

theorem placeIssues_on {p inner : Option NamedType} (hp : ∀ t ∈ p, t ∈ c.schema.types)
    (hinner : ∀ t ∈ inner, t ∈ c.schema.types) (mark : Nat) (what : String) :
    (c.on s').placeIssues (p.map fun t => t.widened c.schema (extra t))
        (inner.map fun t => t.widened c.schema (extra t)) mark what
      = c.placeIssues p inner mark what := by
  have hpossible : ∀ t ∈ c.schema.types,
      s'.possibleNames (t.widened c.schema (extra t)) = c.schema.possibleNames t :=
    fun t ht => h.possible t.name (h.own t ht)
  have hapart : (c.on s').apart (p.map fun t => t.widened c.schema (extra t))
      (inner.map fun t => t.widened c.schema (extra t)) = c.apart p inner := by
    cases p with
    | none => rfl
    | some a =>
      cases inner with
      | none => rfl
      | some b =>
        have hoverlap : s'.overlap (a.widened c.schema (extra a)) (b.widened c.schema (extra b))
            = c.schema.overlap a b := by
          rw [Schema.overlap, hpossible a (hp a rfl), hpossible b (hinner b rfl)]
          rfl
        simp only [apart, Option.map_some, on, hoverlap]
        rfl
  rw [placeIssues, placeIssues, hapart]

theorem inlineIssues_on {p : Option NamedType} (hp : ∀ t ∈ p, t ∈ c.schema.types) (mark : Nat)
    {x? : Option (Nat × String)} (hx : ∀ x ∈ x?, (c.schema.composite? x.2).isSome = true) :
    (c.on s').inlineIssues (p.map fun t => t.widened c.schema (extra t)) mark x?
      = c.inlineIssues p mark x? := by
  cases x? with
  | none => exact placeIssues_on h hp hp mark "Fragment"
  | some x =>
    have hinner : s'.composite? x.2
        = (c.schema.composite? x.2).map fun t => t.widened c.schema (extra t) :=
      h.composite? (h.shared_of_mem (Site.mem_names_of_composite? (hx x rfl)))
    have hplace := placeIssues_on h hp (Site.mem_composite? (s := c.schema) (n := x.2)) mark "Fragment"
    rw [← hinner] at hplace
    exact hplace

theorem spreadIssues_on (hfragments : ∀ f ∈ c.fragments, (c.schema.composite? f.condition).isSome = true)
    {p : Option NamedType} (hp : ∀ t ∈ p, t ∈ c.schema.types) (mark : Nat) (name : String) :
    (c.on s').spreadIssues (p.map fun t => t.widened c.schema (extra t)) mark name
      = c.spreadIssues p mark name := by
  have hinner : ((c.fragment? name).bind fun f => s'.composite? f.condition)
      = ((c.fragment? name).bind fun f => c.schema.composite? f.condition).map
          fun t => t.widened c.schema (extra t) := by
    cases hf : c.fragment? name with
    | none => rfl
    | some f =>
      have hmem : f ∈ c.fragments := List.mem_reverse.mp (List.mem_of_find?_eq_some hf)
      exact h.composite? (h.shared_of_mem (Site.mem_names_of_composite? (hfragments f hmem)))
  have hmem : ∀ t ∈ (c.fragment? name).bind fun f => c.schema.composite? f.condition,
      t ∈ c.schema.types := by
    intro t ht
    obtain ⟨f, -, ht⟩ := Option.bind_eq_some_iff.mp ht
    exact Site.mem_composite? t ht
  have hplace := placeIssues_on h hp hmem mark ("Fragment '" ++ name ++ "'")
  rw [← hinner] at hplace
  exact hplace

section Context
variable (hc : c.Clear)
include hc

omit hc in
theorem operationRoot_on (o : Operation Nat) :
    (c.on s').operationRoot o = (c.operationRoot o).map fun t => t.widened c.schema (extra t) := by
  have hroot : s'.root o.kind = c.schema.root o.kind := h.root o.kind
  rw [operationRoot, operationRoot, show (c.on s').schema = s' from rfl, hroot]
  cases hn : c.schema.root o.kind with
  | none => rfl
  | some n => exact h.composite? (h.shared_of_mem (h.wellFormed.roots o.kind n hn))

omit h hc in
theorem operationRoot_mem (o : Operation Nat) : ∀ t ∈ c.operationRoot o, t ∈ c.schema.types := by
  intro t ht
  obtain ⟨n, -, ht⟩ := Option.bind_eq_some_iff.mp ht
  exact Site.mem_composite? t ht

omit h hc in
theorem mem_sites_of_operation {o : Operation Nat} (ho : o ∈ c.operations) {site : Site}
    (hsite : site ∈ c.operationSites o) : site ∈ c.sites :=
  List.mem_append_left _ (List.mem_flatMap.mpr ⟨o, ho, hsite⟩)

omit h hc in
theorem mem_sites_of_fragment {f : Fragment Nat} (hf : f ∈ c.fragments) {site : Site}
    (hsite : site ∈ c.fragmentSites f) : site ∈ c.sites :=
  List.mem_append_right _ (List.mem_flatMap.mpr ⟨f, hf, hsite⟩)

theorem operationSites_on {o : Operation Nat} (ho : o ∈ c.operations) :
    (c.on s').operationSites o = (c.operationSites o).map (Site.widened c.schema extra) := by
  have hbelow := Site.ofSelections_widened h (c.operationRoot o) (operationRoot_mem o) o.selections
    fun site hsite => (hc.sites site (mem_sites_of_operation ho (List.mem_cons_of_mem _ hsite))).clear
  rw [operationSites, operationSites, operationRoot_on h, show (c.on s').schema = s' from rfl, hbelow]
  rfl

theorem fragmentSites_on {f : Fragment Nat} (hf : f ∈ c.fragments) :
    (c.on s').fragmentSites f = (c.fragmentSites f).map (Site.widened c.schema extra) := by
  have hbelow := Site.ofSelections_widened h (c.schema.composite? f.condition) Site.mem_composite?
    f.selections
    fun site hsite => (hc.sites site (mem_sites_of_fragment hf (List.mem_cons_of_mem _ hsite))).clear
  rw [fragmentSites, fragmentSites, show (c.on s').schema = s' from rfl,
    h.composite? (h.shared_of_mem (Site.mem_names_of_composite? (hc.fragments f hf).1)), hbelow]
  rfl

theorem sites_on : (c.on s').sites = c.sites.map (Site.widened c.schema extra) := by
  have hoperations : c.operations.flatMap (c.on s').operationSites
      = (c.operations.flatMap c.operationSites).map (Site.widened c.schema extra) := by
    rw [List.map_flatMap]
    exact flatMap_eq_of_mem fun o ho => operationSites_on h hc ho
  have hfragments : c.fragments.flatMap (c.on s').fragmentSites
      = (c.fragments.flatMap c.fragmentSites).map (Site.widened c.schema extra) := by
    rw [List.map_flatMap]
    exact flatMap_eq_of_mem fun f hf => fragmentSites_on h hc hf
  show c.operations.flatMap (c.on s').operationSites ++ c.fragments.flatMap (c.on s').fragmentSites = _
  rw [hoperations, hfragments, ← List.map_append]
  rfl

theorem length_sites_on : (c.on s').sites.length = c.sites.length := by
  rw [sites_on h hc, List.length_map]

theorem topDepth_on : (c.on s').topDepth = c.topDepth := by
  rw [topDepth, topDepth, length_sites_on h hc]
  rfl

theorem spreadsBelow_on : (c.on s').spreadsBelow = c.spreadsBelow := by
  funext ss
  rw [spreadsBelow, spreadsBelow, length_sites_on h hc]

theorem reach_on (fuel : Nat) (found : List String) (bodies : List (List (Selection Nat))) :
    (c.on s').reach fuel found bodies = c.reach fuel found bodies := by
  induction fuel generalizing found bodies with
  | zero => rfl
  | succ fuel ih =>
    cases bodies with
    | nil => rfl
    | cons top rest =>
      rw [reach, reach, spreadsBelow_on h hc, ih]
      rfl

theorem fragmentsOf_on (o : Operation Nat) : (c.on s').fragmentsOf o = c.fragmentsOf o :=
  reach_on h hc _ _ _

theorem followSpreads_on (fuel : Nat) (path : List (String × Nat × String)) (f : Fragment Nat)
    (acc : List String × List Issue) :
    (c.on s').followSpreads fuel path f acc = c.followSpreads fuel path f acc := by
  induction fuel generalizing path f acc with
  | zero => rfl
  | succ fuel ih =>
    simp only [followSpreads, spreadsBelow_on h hc, ih]
    rfl

theorem cycleIssues_on (earlier : List (Fragment Nat)) (f : Fragment Nat) :
    (c.on s').cycleIssues earlier f = c.cycleIssues earlier f := by
  have hfollow : ∀ (acc : List String × List Issue) (f : Fragment Nat),
      (c.on s').followSpreads ((c.on s').fragments.length + 1) [] f acc
        = c.followSpreads (c.fragments.length + 1) [] f acc :=
    fun acc f => followSpreads_on h hc _ [] f acc
  simp only [cycleIssues, hfollow]

omit hc h in
theorem isTooDeep_on (fuel : Nat) (c : QueryContext) (depth : Nat) (x : Selection Nat) :
    isTooDeep fuel (c.on s') depth x = isTooDeep fuel c depth x := by
  induction fuel generalizing c depth x with
  | zero => rfl
  | succ fuel ih =>
    have hall : ∀ (c : QueryContext) depth, isTooDeep fuel (c.on s') depth = isTooDeep fuel c depth :=
      fun c depth => funext fun x => ih c depth x
    cases x with
    | field m l n as ds bm ss => simp only [isTooDeep, hall]
    | inline m x? ds ss => simp only [isTooDeep, hall]
    | spread m nm n ds =>
      have hothers := hall { c with fragments := c.fragments.filter (·.name != n) } depth
      simp only [on] at hothers
      simp only [isTooDeep, on, hothers]
      rfl

theorem introspectionIssues_on (n : FieldNode) :
    (c.on s').introspectionIssues n = c.introspectionIssues n := by
  have hdeep : isTooDeep c.topDepth (c.on s') 0 = isTooDeep c.topDepth c 0 :=
    funext fun x => isTooDeep_on c.topDepth c 0 x
  rw [introspectionIssues, introspectionIssues, topDepth_on h hc, hdeep]

omit hc in
theorem shared_of_stands {p : Option NamedType} {d : Option Field} {n : FieldNode}
    (hstands : Site.Stands c.schema (.field p d n)) :
    ∀ f ∈ d, shared f.type.base ∧ ∀ v ∈ f.arguments, shared v.type.base := by
  intro f hf
  obtain ⟨hp, rfl⟩ := hstands
  obtain ⟨t, ht, hfield⟩ := Option.bind_eq_some_iff.mp hf
  exact h.shared_fieldOf? (hp t ht) hfield

/-- At a place where all is there the issues are the same. -/
theorem siteIssues_on {site : Site} (hsite : c.ClearAt site) :
    (c.on s').siteIssues (site.widened c.schema extra) = c.siteIssues site := by
  obtain ⟨hstands, hclear, hdirectives⟩ := hsite
  cases site with
  | field p d n =>
    have hds : ∀ d ∈ n.directives, c.Knows d := hdirectives
    have hd := shared_of_stands h hstands
    simp only [Site.widened, siteIssues, leafSelectionIssues_on h hd, unknownFieldIssues_on hclear.1,
      repeatedDirectiveIssues_on h hds, introspectionIssues_on h hc, argumentIssues_on h hd,
      directivesIssues_on h hds]
  | fieldEnd p d n =>
    have hrequired : (c.on s').requiredArgumentIssues (d.map (Field.evaluated c.schema)) n
        = c.requiredArgumentIssues d n := requiredArgumentIssues_on
    simp only [Site.widened, siteIssues, hrequired]
  | spread p m nm n ds =>
    have hds : ∀ d ∈ ds, c.Knows d := hdirectives
    have hspread := spreadIssues_on h (fun f hf => (hc.fragments f hf).1) hstands m n
    have hknown : (c.on s').knownFragmentIssues nm n = c.knownFragmentIssues nm n := rfl
    simp only [Site.widened, siteIssues, hknown, hspread, repeatedDirectiveIssues_on h hds,
      directivesIssues_on h hds]
  | inline p m x? ds =>
    have hds : ∀ d ∈ ds, c.Knows d := hdirectives
    have hinline := inlineIssues_on h hstands m hclear
    have hconditions : x?.toList.flatMap (fun x => (c.on s').conditionIssues x.1 x.2)
        = x?.toList.flatMap fun x => c.conditionIssues x.1 x.2 :=
      flatMap_eq_of_mem fun x hx =>
        conditionIssues_on h x.1 (h.shared_of_mem
          (Site.mem_names_of_composite? (hclear x (Option.mem_toList.mp hx))))
    have hnames : x?.toList.flatMap (fun x => (c.on s').typeNameIssues [] x.1 x.2)
        = x?.toList.flatMap fun x => c.typeNameIssues [] x.1 x.2 :=
      flatMap_eq_of_mem fun x hx => typeNameIssues_on h [] x.1
        (Site.mem_names_of_composite? (hclear x (Option.mem_toList.mp hx)))
    simp only [Site.widened, siteIssues, hinline, hconditions, hnames,
      repeatedDirectiveIssues_on h hds, directivesIssues_on h hds]
  | selections p ss => rfl

end Context
end On
end QueryContext
end Subgraph
