import Subgraph.Proofs.ServedRoot

/-!
# The names that an SDL uses

What is left out of an SDL is not used by it, with one exception: fields may refer to a query root
that has protocol fields only, although it is not declared. The types of introspection are built in
as the scalars are, and may be used without a declaration.
-/

namespace Subgraph.Federation
open Config

section Closed
variable {s : Schema}

/-- Apart from the definitions of the protocol, nothing refers to a type of the protocol but the
protocol fields of the query root. -/
structure OnlyRootRefers (s : Schema) : Prop where
  types : ∀ t ∈ serviceTypes s, ∀ n ∈ Build.references (declaredType s t), isTypeName n = false
  directives : ∀ e ∈ serviceDirectives s, ∀ v ∈ e.arguments, isTypeName v.type.base = false
  roots : ∀ k n, s.root k = some n → isTypeName n = false

theorem references_declaredType {t : NamedType} {n : String}
    (h : n ∈ Build.references (declaredType s t)) : n ∈ Build.references t := by
  have hdeclared : ∀ fs : List Field, ∀ f ∈ declaredFields s t fs, f ∈ fs := by
    intro fs f hf
    unfold declaredFields at hf
    split at hf
    · exact List.mem_of_mem_filter hf
    · exact hf
  have hfields : ∀ (is : List String) (fs : List Field),
      n ∈ is ++ (declaredFields s t fs).flatMap (fun f => f.type.base :: f.arguments.map (·.type.base)) →
      n ∈ is ++ fs.flatMap fun f => f.type.base :: f.arguments.map (·.type.base) := by
    intro is fs hn
    rcases List.mem_append.mp hn with hn | hn
    · exact List.mem_append_left _ hn
    · obtain ⟨f, hf, hn⟩ := List.mem_flatMap.mp hn
      exact List.mem_append_right _ (List.mem_flatMap.mpr ⟨f, hdeclared fs f hf, hn⟩)
  unfold Build.references declaredType at h
  unfold Build.references
  cases hs : t.shape with
  | object is fs =>
    rw [hs] at h
    exact hfields is fs h
  | interface is fs =>
    rw [hs] at h
    exact hfields is fs h
  | _ =>
    rw [hs] at h
    exact h

theorem declared_or_leftOut (hnames : (s.types.map (·.name)).Nodup) {n : String}
    (hn : n ∈ s.types.map (·.name)) (hplain : isTypeName n = false) :
    isBuiltinName n = true ∨ n ∈ (declarations s).typeNames ∨ LeftOutRoot s n := by
  cases hdefined : isBuiltinName n with
  | true => exact .inl rfl
  | false =>
    by_cases hleft : n ∈ leftOutNames s
    · exact .inr (.inr (leftOutRoot_of_mem hnames hleft))
    · exact .inr (.inl ((mem_typeNames hnames).mpr ⟨mem_serviceNames hn hdefined hplain, hleft⟩))

theorem uses_known (hw : s.WellFormed) (h : OnlyRootRefers s) {n : String}
    (hn : n ∈ (declarations s).uses) : n ∈ s.types.map (·.name) ∧ isTypeName n = false := by
  simp only [Declarations.uses, declarations, List.mem_append] at hn
  rcases hn with (hn | hn) | hn
  · obtain ⟨⟨k, n⟩, ho, rfl⟩ := List.mem_map.mp hn
    cases hroots : definedRoots s with
    | none => rw [hroots] at ho; cases ho
    | some roots =>
      rw [hroots] at ho
      have hroot := (mem_rootsOf s).mp ((mem_of_definedRoots hroots (k, n)).mp ho).1
      exact ⟨hw.roots k n hroot, h.roots k n hroot⟩
  · obtain ⟨e, he, hn⟩ := List.mem_flatMap.mp hn
    obtain ⟨v, hv, rfl⟩ := List.mem_map.mp hn
    have hmem : e ∈ s.directives := List.mem_of_mem_filter (List.mem_of_mem_filter he)
    exact ⟨Schema.mem_names_of_any (hw.directives e hmem v hv).type, h.directives e he v hv⟩
  · obtain ⟨u, hu, hn⟩ := List.mem_flatMap.mp hn
    obtain ⟨t, ht, -, rfl⟩ := mem_declaredTypes.mp hu
    exact ⟨(hw.refers t (List.mem_of_mem_filter ht)).references (references_declaredType hn),
      h.types t ht n hn⟩

/-- The SDL is closed, but for a query root that is left out: every type that it uses is built in or
declared, or is that root, and that root is never named as a root. -/
theorem printSdl?_closed (s : Schema) (c : Classification) (sdl : String) (hw : s.WellFormed)
    (h : OnlyRootRefers s) (hsdl : printSdl? s c = .ok sdl) :
    sdl = (declarations s).text s (directiveMap s c)
      ∧ (∀ n ∈ (declarations s).uses,
          isBuiltinName n = true ∨ n ∈ (declarations s).typeNames ∨ LeftOutRoot s n)
      ∧ ∀ roots, (declarations s).roots = some roots → ∀ o ∈ roots, ¬ LeftOutRoot s o.2 := by
  refine ⟨?_, fun n hn => ?_, fun roots hroots o ho hleft => ?_⟩
  · rw [← printSdl_declarations hw.rootsNamed]
    unfold printSdl? at hsdl
    split at hsdl
    · cases hsdl
    · exact (Except.ok.inj hsdl).symm
  · obtain ⟨hmem, hplain⟩ := uses_known hw h hn
    exact declared_or_leftOut hw.names hmem hplain
  · obtain ⟨-, hkept⟩ := (mem_of_definedRoots hroots o).mp ho
    exact hkept (hleft.mem_leftOutNames (h.roots .query o.2 hleft.1))

end Closed

section Market

theorem onlyRootRefers_market : OnlyRootRefers market where
  types := by decide +kernel
  directives := by decide +kernel
  roots := by
    intro k n hn
    cases k <;> cases hn <;> decide

theorem printSdl?_closed_market : market.WellFormed ∧ OnlyRootRefers market
    ∧ ∃ sdl, printSdl? market ⟨[]⟩ = .ok sdl
      ∧ sdl = (declarations market).text market (directiveMap market ⟨[]⟩)
      ∧ (∀ n ∈ (declarations market).uses,
          isBuiltinName n = true ∨ n ∈ (declarations market).typeNames ∨ LeftOutRoot market n)
      ∧ ∀ roots, (declarations market).roots = some roots →
          ∀ o ∈ roots, ¬ LeftOutRoot market o.2 := by
  refine ⟨wellFormed_market, onlyRootRefers_market, ?_⟩
  have hprint : (printSdl? market ⟨[]⟩).isOk = true := by decide +kernel
  cases hsdl : printSdl? market ⟨[]⟩ with
  | error e => rw [hsdl] at hprint; cases hprint
  | ok sdl =>
    exact ⟨sdl, rfl, printSdl?_closed market ⟨[]⟩ sdl wellFormed_market onlyRootRefers_market hsdl⟩

end Market

section Limits

/-- A query root with nothing but a protocol field, which another type refers to. -/
def bareRoot : Schema :=
  schemaOf [queryOf [intField serviceField],
    ⟨none, "Page", .object [] [⟨none, "query", [], .named "Query", none, []⟩], []⟩] []

/-- A field of a type of introspection. -/
def reflective : Schema := schemaOf [queryOf [⟨none, "self", [], .named "__Type", none, []⟩]] []

/-- A type that is used may be a root that is left out, or a type of introspection. -/
theorem not_closed :
    (bareRoot.WellFormed ∧ OnlyRootRefers bareRoot
      ∧ (printSdl? bareRoot ⟨[]⟩).toOption = some "type Page \x7b\n  query: Query\n\x7d\n"
      ∧ "Query" ∈ (declarations bareRoot).uses
      ∧ "Query" ∉ builtinScalarNames ++ (declarations bareRoot).typeNames)
    ∧ (reflective.WellFormed ∧ OnlyRootRefers reflective
      ∧ (printSdl? reflective ⟨[]⟩).toOption = some "type Query \x7b\n  self: __Type\n\x7d\n"
      ∧ "__Type" ∈ (declarations reflective).uses
      ∧ "__Type" ∉ builtinScalarNames ++ (declarations reflective).typeNames) := by
  have hroots : ∀ own, ∀ k n, (schemaOf own []).root k = some n → isTypeName n = false := by
    intro own k n hn
    cases k <;> cases hn
    decide
  exact ⟨⟨by decide +kernel, ⟨by decide +kernel, by decide +kernel, hroots _⟩, by decide +kernel,
      by decide +kernel, by decide +kernel⟩,
    ⟨by decide +kernel, ⟨by decide +kernel, by decide +kernel, hroots _⟩, by decide +kernel,
      by decide +kernel, by decide +kernel⟩⟩

end Limits

end Subgraph.Federation
