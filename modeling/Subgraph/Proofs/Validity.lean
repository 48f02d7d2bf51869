import Subgraph.Proofs.Conservative
import Subgraph.Proofs.GrownProblems
import Subgraph.Proofs.Rooting
import Subgraph.Proofs.ServedRoot

/-!
# Transformed schemas are valid

A schema without problems, or without any but a query root that is missing, has no problems after the
transformation. It does not matter whether the query root was there, whether a type becomes the root
or whether the root is created: a schema without a query root makes one of its object type `Query`, if
it has that type, and this type takes the protocol definitions as it does where it is the root already.
-/

namespace Subgraph

theorem InputValue.evaluated_of_types {s s' : Schema} (h : s'.types = s.types) (v : InputValue) :
    v.evaluated s' = v.evaluated s := by
  rw [InputValue.evaluated, InputValue.evaluated, v.default_of_types h]

namespace Build

theorem Draft.isKnown_of_mem {ts : List NamedType} {n : String} (h : n ∈ ts.map (·.name)) :
    (Draft.ofTypes ts).isKnown n = true := by
  have hname : ∀ t : NamedType, (settle t).name = t.name := fun _ => rfl
  have hsome : (ts.find? (·.name == n)).isSome = true := by
    obtain ⟨t, ht, rfl⟩ := List.mem_map.mp h
    exact List.find?_isSome.mpr ⟨t, ht, beq_self_eq_true _⟩
  rw [isKnown, Schema.shape?, Option.isSome_map, Schema.type?, ofTypes, List.find?_append,
    find?_map_of_name hname, Option.isSome_or, Option.isSome_map, hsome, Bool.true_or]

end Build

namespace Federation
open Build

/-- The schema where the type that becomes the query root is the root already. -/
def withRoot (s : Schema) : Schema := { s with query := some (rootName s) }

section LateRoot
variable {s : Schema} {es : List String}

theorem withRoot_of_some {q : String} (h : s.query = some q) : withRoot s = s := by
  rw [withRoot, rootName, h, Option.getD_some, ← h]

theorem evaluated_withRoot : (withRoot s).evaluated = withRoot s.evaluated := by
  have htypes : (withRoot s).types = s.types := rfl
  have hsame : InputValue.evaluated (withRoot s) = InputValue.evaluated s :=
    funext fun v => v.evaluated_of_types htypes
  rw [Schema.evaluated, hsame]
  rfl

theorem parts_withRoot (hquery : s.query = none) (hobject : s.isObject defaultQuery = true) :
    parts (additions s es) = { parts (additions (withRoot s) es) with
      schemaExtensions := [⟨(), [], [(.query, defaultQuery)]⟩] } := by
  have hroot : (withRoot s).query = some defaultQuery := by
    rw [withRoot, rootName, hquery]
    rfl
  have htype : (withRoot s).type? = s.type? := rfl
  have hdirective : (withRoot s).directive? = s.directive? := rfl
  unfold additions queryDefinitions
  rw [hquery, hroot, htype, hdirective]
  simp only [hobject, if_true, parts_append]
  cases es.isEmpty <;> cases (s.type? fieldSetScalar).isNone <;>
    cases (s.directive? keyDirective).isNone <;> cases (s.directive? extendsDirective).isNone <;> rfl

theorem add_withRoot (hobject : s.isObject (rootName s) = true) :
    s.add (additions s es) = (withRoot s).add (additions (withRoot s) es) := by
  cases hquery : s.query with
  | some q => rw [withRoot_of_some hquery]
  | none =>
    have hroot : rootName s = defaultQuery := by rw [rootName, hquery]; rfl
    rw [hroot] at hobject
    obtain ⟨-, -, hschemas, hoperations⟩ := parts_additions (withRoot s) es
    have hroots : withRoot s.evaluated = { s.evaluated with query := some defaultQuery } := by
      rw [withRoot, rootName, Schema.evaluated, hquery]
      rfl
    unfold Schema.add
    rw [parts_withRoot hquery hobject, evaluated_withRoot, hroots]
    generalize parts (additions (withRoot s) es) = p at hschemas hoperations
    have hoperations : p.schemaExtensions.flatMap (·.operations) = [] := hoperations
    have hknown : (Draft.ofTypes (lastByName (·.name) ((s.evaluated.types.map fun t =>
          if t.isDefined then (p.extensions.filter (·.name == t.name)).foldl extendExisting t else t)
        ++ p.types.map fun d => namedType p.extensions d.1 d.2))).isKnown defaultQuery = true := by
      refine Draft.isKnown_of_mem (mem_names_lastByName.mpr ?_)
      obtain ⟨t, ht, hname⟩ := List.mem_map.mp (Schema.mem_names_of_any hobject)
      refine List.mem_map.mpr ⟨_, List.mem_append_left _ (List.mem_map_of_mem
        (List.mem_map_of_mem ht)), ?_⟩
      split
      · exact (extendExisting_name _ _).trans hname
      · exact hname
    have hnames : ([(OperationKind.query, defaultQuery)].forM fun o =>
        if (Draft.ofTypes (lastByName (·.name) ((s.evaluated.types.map fun t =>
            if t.isDefined then (p.extensions.filter (·.name == t.name)).foldl extendExisting t else t)
          ++ p.types.map fun d => namedType p.extensions d.1 d.2))).isKnown o.2 then
            (pure () : Except BuildError Unit)
          else throw (.unknownType o.2)) = .ok () :=
      forM_ok fun o ho => by rw [List.mem_singleton.mp ho, hknown]; rfl
    simp only [hschemas, hoperations, List.getLast?_nil, Option.map_none, Option.getD_none,
      List.nil_append, List.flatMap_singleton, hnames]
    rfl

end LateRoot

open Config

/-- A schema that has nothing of the protocol and no problem besides a query root that is missing. The
query root, or the type that becomes one, is an object type of its own. -/
structure Validated (s : Schema) : Prop where
  wellFormed : s.WellFormed
  valid : s.problems = if s.query.isNone then ["Query root type must be provided."] else []
  undeclared : ∀ n ∈ typeNames, (s.type? n).isNone = true
  root : ∀ t, s.type? (rootName s) = some t → t.shape.isObject = true ∧ t.isDefined = true
    ∧ ∀ n ∈ fieldNames, (t.field? n).isNone = true

section WithRoot
variable {s : Schema}

theorem wellFormed_withRoot (hw : s.WellFormed) (hroot : rootName s ∈ s.types.map (·.name)) :
    (withRoot s).WellFormed where
  names := hw.names
  named := hw.named
  roots := by
    intro k n hn
    cases k with
    | query => cases hn; exact hroot
    | mutation => exact hw.roots .mutation n hn
    | subscription => exact hw.roots .subscription n hn
  distinct := hw.distinct
  refers := fun t ht =>
    ⟨(hw.refers t ht).interfaces, (hw.refers t ht).members, (hw.refers t ht).fields,
      fun v hv => ⟨((hw.refers t ht).inputs v hv).type, ((hw.refers t ht).inputs v hv).deprecation⟩⟩
  directives := fun d hd v hv =>
    ⟨(hw.directives d hd v hv).type, (hw.directives d hd v hv).deprecation⟩
  introspection := hw.introspection
  texts := hw.texts

theorem problems_withRoot (hobject : s.isObject (rootName s) = true)
    (hvalid : s.problems = if s.query.isNone then ["Query root type must be provided."] else []) :
    (withRoot s).problems = [] := by
  obtain ⟨hoperations, hdirectives, htypes⟩ := Schema.problems_of_missing hvalid
  have hsame : (withRoot s).types = s.types := rfl
  have hwrong : ∀ n (problem : String), s.isObject n = true →
      (if (withRoot s).isObject n then [] else [problem]) = [] := fun n _ hn => if_pos hn
  refine List.append_eq_nil_iff.mpr ⟨List.append_eq_nil_iff.mpr ⟨?_, ?_⟩, ?_⟩
  · unfold Schema.rootProblems
    simp only [withRoot, List.append_eq_nil_iff, List.flatMap_eq_nil_iff]
    exact ⟨⟨hwrong _ _ hobject,
      fun n hn => hwrong n _ (hoperations n (.inl (Option.mem_toList.mp hn)))⟩,
      fun n hn => hwrong n _ (hoperations n (.inr (Option.mem_toList.mp hn)))⟩
  · rw [Schema.directiveProblems_of_types hsame]
    exact List.flatMap_eq_nil_iff.mpr hdirectives
  · exact (Schema.typesProblems_of_types hsame [] _).trans htypes

/-- A query root that is missing has no name of its own, and the name that it would get is free. -/
theorem rootless_of_missing (hw : s.WellFormed) (h : s.type? (rootName s) = none) :
    s.query = none ∧ s.type? defaultQuery = none := by
  have hquery : s.query = none := by
    cases hq : s.query with
    | none => rfl
    | some q =>
      rw [rootName, hq] at h
      exact absurd (hw.roots .query q hq) (find?_eq_none_iff_not_mem.mp h)
  exact ⟨hquery, by rwa [rootName, hquery] at h⟩

theorem extend_withRoot (es : List String) (hobject : s.isObject (rootName s) = true) :
    s.extend (additions s es) = (withRoot s).extend (additions (withRoot s) es) := by
  rw [Schema.extend, Schema.extend, add_withRoot hobject]

variable (h : Validated s)
include h

/-- With its root a validated schema can take the protocol definitions, and it takes them so. -/
theorem Validated.extends : ∃ s', Unserved s' ∧ s'.directives = s.directives
    ∧ s'.isObject = s.isObject ∧ ∀ es, s.extend (additions s es) = s'.extend (additions s' es) := by
  cases ht : s.type? (rootName s) with
  | none =>
    obtain ⟨hquery, hfree⟩ := rootless_of_missing h.wellFormed ht
    exact ⟨s, ⟨h.wellFormed, h.valid, h.undeclared, .inr ⟨hquery, hfree⟩⟩, rfl, rfl, fun _ => rfl⟩
  | some t =>
    obtain ⟨hshape, hdefined, hlacks⟩ := h.root t ht
    obtain ⟨hmem, hname⟩ := Schema.mem_of_type? ht
    have hobject : s.isObject (rootName s) = true := by
      rw [Schema.isObject, Schema.shape?, ht]
      exact hshape
    have hroot : (withRoot s).query = some t.name := by rw [hname]; rfl
    refine ⟨withRoot s, ⟨wellFormed_withRoot h.wellFormed (hname ▸ List.mem_map_of_mem hmem),
      problems_withRoot hobject h.valid, h.undeclared,
      .inl ⟨t, hmem, hroot, hshape, hdefined, hlacks⟩⟩, rfl, rfl, fun es => extend_withRoot es hobject⟩

end WithRoot

section Transform
variable {registry : Registry} {x : Service} {raw : Raw} {config : Config}

end Transform

section Roots

theorem validated_of_query {own : List NamedType} {fields : List Field}
    {directives : List DirectiveType} {query : Option String}
    (hquery : query = some defaultQuery ∨ query = none)
    (hw : ({ schemaOf (queryOf fields :: own) directives with query } : Schema).WellFormed)
    (hvalid : ({ schemaOf (queryOf fields :: own) directives with query } : Schema).problems
      = if query.isNone then ["Query root type must be provided."] else [])
    (hundeclared : ∀ n ∈ typeNames,
      ((schemaOf (queryOf fields :: own) directives).type? n).isNone = true)
    (hfields : ∀ n ∈ fieldNames, ((queryOf fields).field? n).isNone = true) :
    Validated { schemaOf (queryOf fields :: own) directives with query } where
  wellFormed := hw
  valid := hvalid
  undeclared := hundeclared
  root := by
    intro t ht
    have htype : some (queryOf fields) = some t := by
      rcases hquery with rfl | rfl
      · exact ht
      · exact ht
    cases htype
    exact ⟨rfl, rfl, hfields⟩

theorem validated_shop : Validated shop :=
  validated_of_query (.inl rfl) (by decide +kernel) (by decide +kernel) (by decide +kernel)
    (by decide +kernel)

/-- A schema whose types are there, but without a query root. -/
def lateShop : Schema := { shop with query := none }

theorem validated_lateShop : Validated lateShop :=
  validated_of_query (.inr rfl) (by decide +kernel) (by decide +kernel) (by decide +kernel)
    (by decide +kernel)

/-- A schema with mutations alone. -/
def orders : Schema :=
  { schemaOf [⟨none, "Orders", .object [] [intField "buy"], []⟩] [] with
    query := none
    mutation := some "Orders" }

theorem validated_orders : Validated orders where
  wellFormed := by decide +kernel
  valid := by decide +kernel
  undeclared := by decide +kernel
  root := by
    intro t ht
    have hnone : orders.type? (rootName orders) = none :=
      Option.isNone_iff_eq_none.mp (by decide +kernel)
    rw [hnone] at ht
    cases ht

/-- The transformation of a schema gives a schema without problems. -/
def ValidAfter (s : Schema) (raw : Raw) : Prop :=
  ∃ y, (transform shopRegistry (.ofSchema s) raw []).1 = .ok y ∧ y.schema.problems = []

end Roots

section Limits

/-- A type that can become the query root and has, as its interface wants, a field that goes by the
name of one of the protocol. -/
def lateNode : Schema :=
  { schemaOf [⟨none, "Query", .object ["Node"] [intField serviceField], []⟩,
      ⟨none, "Node", .interface [] [intField serviceField], []⟩] [] with
    query := none }

theorem not_validAfter {s : Schema} {raw : Raw}
    (h : (transform shopRegistry (.ofSchema s) raw []).1.toOption.any
      (fun y => decide (y.schema.problems = [])) = false) : ¬ ValidAfter s raw := by
  rintro ⟨y, hy, hvalid⟩
  rw [hy, Except.toOption, Option.any_some, decide_eq_false_iff_not] at h
  exact h hvalid

end Limits

end Federation
end Subgraph
