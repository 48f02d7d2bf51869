import Subgraph.Proofs.Declarations

/-!
# The query root in the SDL

A transformed service has a query root, which may have been created or may have been a mere type
before. The SDL is that of the schema before. It shows a root that was there without its protocol
fields, and names it if and only if it declares it; a type that becomes the root is shown as it is.
-/

namespace Subgraph.Federation
open Config

section QueryRoot
variable {s : Schema}

/-- What declarations have to do with the query root `q` that a transformed service gets. -/
structure AgreesOnRoot (s : Schema) (q : String) (d : Declarations) : Prop where
  /-- No definition of the protocol is among them. -/
  types : ∀ t ∈ d.types, isTypeName t.name = false
  directives : ∀ e ∈ d.directives, isDirectiveName e.name = false
  /-- A root that was there is declared without its protocol fields. -/
  fields : s.query = some q → ∀ t ∈ d.types, t.name = q →
    ∀ f ∈ t.shape.fields, isFieldName f.name = false
  /-- The root is named if and only if it is declared, unless its name is one of the protocol or it
  was no root before. -/
  named : (s.query = some q ∧ isTypeName q = false) ∨ (s.query = none ∧ s.type? q = none) →
    ∀ roots, d.roots = some roots → ((.query, q) ∈ roots ↔ q ∈ d.typeNames)
  /-- A type that becomes the root is declared as it is, and no root is named for queries. -/
  late : s.query = none → ∀ t, s.type? q = some t → t ∈ d.types
    ∧ ∀ roots, d.roots = some roots → ∀ o ∈ roots, o.1 ≠ .query

theorem declaredType_rootless (hquery : s.query = none) (t : NamedType) : declaredType s t = t := by
  have hfields : ∀ fs, declaredFields s t fs = fs := fun fs =>
    if_neg (by rw [hquery]; exact Option.some_ne_none t.name ∘ Eq.symm)
  obtain ⟨description, n, shape, applied⟩ := t
  cases shape <;> simp [declaredType, hfields]

theorem not_mem_declared_of_undefined {n : String} (h : s.type? n = none) :
    n ∉ (declarations s).typeNames := by
  intro hn
  obtain ⟨u, hu, rfl⟩ := List.mem_map.mp hn
  obtain ⟨t, ht, -, rfl⟩ := mem_declaredTypes.mp hu
  have hmem : t.name ∈ s.types.map (·.name) := List.mem_map_of_mem (List.mem_of_mem_filter ht)
  exact find?_eq_none_iff_not_mem.mp h hmem

theorem Rooted.agreesOnRoot (hr : Rooted s) : AgreesOnRoot s (rootName s) (declarations s) where
  types := by
    intro u hu
    obtain ⟨t, ht, -, rfl⟩ := mem_declaredTypes.mp hu
    exact (mem_serviceTypes.mp ht).2.2
  directives := by
    intro e he
    simpa using (List.mem_filter.mp he).2
  fields := by
    intro hquery u hu hname f hf
    obtain ⟨t, ht, -, rfl⟩ := mem_declaredTypes.mp hu
    rw [declaredType_name] at hname
    rw [fields_declaredType, declaredFields, hname, if_pos hquery] at hf
    simpa using (List.mem_filter.mp hf).2
  named := by
    intro hcase roots hroots
    rw [mem_of_definedRoots hroots]
    rcases hcase with ⟨hquery, hplain⟩ | ⟨hquery, hundefined⟩
    · rw [mem_typeNames hr.names, mem_rootsOf, and_congr_left_iff]
      obtain ⟨hobject, hdefined⟩ := hr.root _ hquery
      exact fun _ => iff_of_true hquery
        (mem_serviceNames (Schema.mem_names_of_any hobject) hdefined hplain)
    · refine iff_of_false (fun h => ?_) (not_mem_declared_of_undefined hundefined)
      have hroot : s.query = some (rootName s) := (mem_rootsOf s).mp h.1
      rw [hquery] at hroot
      cases hroot
  late := by
    intro hquery t ht
    obtain ⟨hmem, hname⟩ := Schema.mem_of_type? ht
    have hroot : t.name = defaultQuery := by rw [hname, rootName, hquery]; rfl
    have hkept : isLeftOut s t = false := by
      rw [Bool.eq_false_iff]
      intro hleft
      cases hquery.symm.trans (isLeftOut_iff.mp hleft).1
    refine ⟨mem_declaredTypes.mpr ⟨t, mem_serviceTypes.mpr ⟨hmem, ?_, ?_⟩, hkept,
      declaredType_rootless hquery t⟩, fun roots hroots o ho hkind => ?_⟩
    · rw [NamedType.isDefined, hroot]
      decide
    · rw [hroot]
      decide
    · obtain ⟨k, n⟩ := o
      cases hkind
      have hnone : s.query = some n := (mem_rootsOf s).mp ((mem_of_definedRoots hroots _).mp ho).1
      rw [hquery] at hnone
      cases hnone

end QueryRoot

/-- A transformed service has the query root that its schema had, or a type called as one, and serves
the text of what the schema declares. -/
theorem Transforms.served {x y : Service} {config : Config} {c : Classification} {sdl : String}
    (hnamed : x.schema.RootsNamed) (h : Transforms x config c sdl y) :
    y.schema.query = some (rootName x.schema)
      ∧ servedSdl? y = some ((declarations x.schema).text x.schema (directiveMap x.schema c)) := by
  refine ⟨h.query, ?_⟩
  rw [← printSdl_declarations hnamed, ← h.sdl_eq, servedSdl?, h.query, Option.bind_some,
    Service.resolver?, h.resolvers, protocolResolvers, List.cons_append, List.lookup_cons,
    beq_self_eq_true]

/-- The SDL that a transformed service serves agrees with its query root. -/
theorem servedSdl_agrees_on_root (registry : Registry) (x y : Service) (raw : Raw)
    (old : List LogRecord) (hr : Rooted x.schema) (hnamed : x.schema.RootsNamed)
    (h : (transform registry x raw old).1 = .ok y) :
    ∃ q c, y.schema.query = some q
      ∧ servedSdl? y = some ((declarations x.schema).text x.schema (directiveMap x.schema c))
      ∧ AgreesOnRoot x.schema q (declarations x.schema) := by
  obtain ⟨config, c, sdl, -, htransforms⟩ := transform_ok h
  obtain ⟨hquery, hserved⟩ := htransforms.served hnamed
  exact ⟨rootName x.schema, c, hquery, hserved, hr.agreesOnRoot⟩

section Market

def intField (name : String) : Field := ⟨none, name, [], .named "Int", none, []⟩

/-- A schema with a root of each kind that is declared, a protocol field, and references of all
kinds. -/
def market : Schema :=
  { schemaOf
      [queryOf [intField serviceField, ⟨none, "search",
          [⟨none, "filter", .named "Filter", none, none, []⟩], .list (.named "Hit"), none, []⟩],
        ⟨none, "Orders", .object [] [intField "buy"], []⟩,
        ⟨none, "Node", .interface [] [intField "id"], []⟩,
        ⟨none, "Product", .object ["Node"] [intField "id"], []⟩,
        ⟨none, "Hit", .union ["Product"], []⟩,
        ⟨none, "Filter", .input false [⟨none, "text", .named "String", none, none, []⟩], []⟩]
      [⟨none, "tag", [⟨none, "name", .named "String", none, none, []⟩], false, ["OBJECT"]⟩] with
    mutation := some "Orders" }

theorem wellFormed_market : market.WellFormed := by decide +kernel

theorem rooted_market : Rooted market where
  names := wellFormed_market.names
  root := by
    intro q hq
    cases hq
    decide +kernel

theorem servedSdl_agrees_on_root_market : Rooted market ∧ market.RootsNamed
    ∧ ∃ y, (transform shopRegistry (.ofSchema market) productKeys []).1 = .ok y
      ∧ ∃ q c, y.schema.query = some q
        ∧ servedSdl? y = some ((declarations market).text market (directiveMap market c))
        ∧ AgreesOnRoot market q (declarations market) := by
  refine ⟨rooted_market, wellFormed_market.rootsNamed, ?_⟩
  have hrun : (transform shopRegistry (.ofSchema market) productKeys []).1.isOk = true := by
    decide +kernel
  cases hy : (transform shopRegistry (.ofSchema market) productKeys []).1 with
  | error e => rw [hy] at hrun; cases hrun
  | ok y =>
    exact ⟨y, rfl, servedSdl_agrees_on_root shopRegistry (.ofSchema market) y productKeys []
      rooted_market wellFormed_market.rootsNamed hy⟩

end Market

section Limits

/-- The query root and the SDL of a service that has been transformed without settings. -/
def servedAt (s : Schema) : Option (String × String) :=
  (transform shopRegistry (.ofSchema s) (.record []) []).1.toOption.bind fun y =>
    y.schema.query.bind fun q => (servedSdl? y).map fun sdl => (q, sdl)

/-- A type that can become the query root, beside a root for mutations. -/
def lateMutation : Schema :=
  { schemaOf [queryOf [intField "a"], ⟨none, "Orders", .object [] [intField "buy"], []⟩] [] with
    query := none
    mutation := some "Orders" }

/-- Whether the query root is declared without protocol fields, and named if and only if it is
declared. -/
def AgreesThroughout (s : Schema) (q : String) : Prop :=
  (∀ t ∈ (declarations s).types, t.name = q → ∀ f ∈ t.shape.fields, isFieldName f.name = false)
    ∧ ∀ roots, (declarations s).roots = some roots →
      ((.query, q) ∈ roots ↔ q ∈ (declarations s).typeNames)

/-- A type that becomes the query root is shown with a field of the protocol, or is not named beside
the other roots, and a root with a name of the protocol is named but not declared. -/
theorem not_agreesThroughout :
    (servedAt (lateRoot [intField serviceField, intField "a"])
        = some ("Query", "type Query \x7b\n  _service: Int\n  a: Int\n\x7d\n")
      ∧ ¬ AgreesThroughout (lateRoot [intField serviceField, intField "a"]) "Query")
    ∧ (servedAt lateMutation = some ("Query", "schema \x7b\n  mutation: Orders\n\x7d\n\n"
          ++ "type Query \x7b\n  a: Int\n\x7d\n\ntype Orders \x7b\n  buy: Int\n\x7d\n")
      ∧ ¬ AgreesThroughout lateMutation "Query")
    ∧ (servedAt serviceRoot = some (serviceType, "schema \x7b\n  query: _Service\n\x7d\n\n"
          ++ "type Product \x7b\n  id: ID!\n\x7d\n")
      ∧ ¬ AgreesThroughout serviceRoot serviceType) := by
  refine ⟨⟨by decide +kernel, fun h => ?_⟩, ⟨by decide +kernel, fun h => ?_⟩,
    ⟨by decide +kernel, fun h => ?_⟩⟩
  · have hdeclared : queryOf [intField serviceField, intField "a"]
        ∈ (declarations (lateRoot [intField serviceField, intField "a"])).types :=
      List.mem_cons_self
    exact absurd (h.1 _ hdeclared rfl _ List.mem_cons_self) (by decide)
  · have hroots : (declarations lateMutation).roots = some [(.mutation, "Orders")] := by decide +kernel
    exact absurd ((h.2 _ hroots).mpr (by decide +kernel)) (by decide)
  · have hroots : (declarations serviceRoot).roots = some [(.query, serviceType)] := by
      decide +kernel
    exact absurd ((h.2 _ hroots).mp List.mem_cons_self) (by decide +kernel)

end Limits

end Subgraph.Federation
