import Mathlib.Data.List.Nodup
import Subgraph.Proofs.Growth

/-!
# The query root of an extended schema

However a schema takes the protocol definitions, its query root comes out with the protocol fields as
they are defined, and the scalar for representations is the one of the protocol. Nothing is asked of
the schema but that its types have different names, and that a query root which it has is an object
type of its own.
-/

namespace Subgraph

namespace Build

theorem Builtin.type?_name {n : String} {t : NamedType} (h : Builtin.type? n = some t) :
    t.name = n ∧ isBuiltinName n = true := by
  have hname : (t.name == n) = true := List.find?_some (p := fun t : NamedType => t.name == n) h
  have hname : t.name = n := eq_of_beq hname
  have hall : ((Builtin.scalars ++ Builtin.introspection).all fun t => isBuiltinName t.name) = true := by
    decide +kernel
  have hbuiltin := List.all_eq_true.mp hall t (List.mem_of_find?_eq_some h)
  rw [hname] at hbuiltin
  exact ⟨hname, hbuiltin⟩

theorem isDefined_builtin {n : String} {t : NamedType} (h : Builtin.type? n = some t) :
    t.isDefined = false := by
  obtain ⟨hname, hbuiltin⟩ := Builtin.type?_name h
  rw [NamedType.isDefined, hname, hbuiltin]
  rfl

section Placing
variable {n : String}

theorem any_name_iff {ts : List NamedType} :
    (ts.any (·.name == n)) = true ↔ n ∈ ts.map (·.name) := by
  rw [List.any_eq_true, List.mem_map]
  exact exists_congr fun t => and_congr_right fun _ => beq_iff_eq

section Induction
variable {own : String → Bool} {P : List NamedType → Prop}

/-- What stays true when one built-in type of a new name is placed stays true when it is placed with
those that it refers to. -/
theorem addBuiltin_induction (hstep : ∀ ts b, P ts → own b.name = false →
      b.name ∉ ts.map (·.name) → Builtin.type? b.name = some b → P (ts ++ [b]))
    (fuel : Nat) {ts : List NamedType} (h : P ts) (m : String) : P (addBuiltin own fuel ts m) := by
  induction fuel generalizing ts m with
  | zero => exact h
  | succ fuel ih =>
    unfold addBuiltin
    split
    · exact h
    · next hnew =>
      rw [Bool.or_eq_true, not_or, any_name_iff, Bool.not_eq_true] at hnew
      cases hb : Builtin.type? m with
      | none => exact h
      | some b =>
        obtain rfl := (Builtin.type?_name hb).1
        exact List.foldlRecOn _ _ (hstep ts b h hnew.1 hnew.2 hb) fun _ h k _ => ih h k

theorem foldl_addBuiltin_induction (hstep : ∀ ts b, P ts → own b.name = false →
      b.name ∉ ts.map (·.name) → Builtin.type? b.name = some b → P (ts ++ [b]))
    (fuel : Nat) {ts : List NamedType} (h : P ts) (names : List String) :
    P (names.foldl (addBuiltin own fuel) ts) :=
  List.foldlRecOn _ _ h fun _ h m _ => addBuiltin_induction hstep fuel h m

end Induction

/-- What holds of the types that are done and those that are placed holds in the end, if it stays
true when the next type is placed and when a built-in type of another name is. -/
theorem withBuiltins_induction {types : List NamedType}
    {P : List NamedType → List NamedType → Prop} (hnil : P [] [])
    (hnext : ∀ done t rest placed, done ++ t :: rest = types → P done placed →
      P (done ++ [t]) (placed ++ [t]))
    (hbuiltin : ∀ done placed b, P done placed → b.name ∉ types.map (·.name) →
      b.name ∉ placed.map (·.name) → Builtin.type? b.name = some b → P done (placed ++ [b]))
    (directives : List DirectiveType) : P types (withBuiltins types directives) := by
  -- Names are placed by the law for one name; types follow by induction on those still to come.
  have hadd : ∀ (done placed : List NamedType) (names : List String), P done placed →
      P done (names.foldl (addBuiltin (fun m => types.any (·.name == m)) builtinDepth) placed) := by
    refine fun done placed names h => foldl_addBuiltin_induction (fun ts b h hown => ?_) _ h names
    exact hbuiltin done ts b h fun hmem => by rw [any_name_iff.mpr hmem] at hown; cases hown
  have hplaced : ∀ rest done placed : List NamedType, done ++ rest = types → P done placed →
      P types (rest.foldl (fun ts t => (references t).foldl
        (addBuiltin (fun m => types.any (·.name == m)) builtinDepth) (ts ++ [t])) placed) := by
    intro rest
    induction rest with
    | nil =>
      intro done placed hall h
      rw [List.append_nil] at hall
      exact hall ▸ h
    | cons t rest ih =>
      intro done placed hall h
      exact ih (done ++ [t]) _ (by rw [List.append_assoc]; exact hall)
        (hadd _ _ _ (hnext done t rest placed hall h))
  exact hadd _ _ _ (hadd _ _ _ (hplaced types [] [] rfl hnil))

theorem filter_withBuiltins (types : List NamedType) (directives : List DirectiveType) :
    (withBuiltins types directives).filter (·.isDefined) = types.filter (·.isDefined) := by
  refine withBuiltins_induction
    (P := fun done placed => placed.filter (·.isDefined) = done.filter (·.isDefined)) rfl
    (fun done t rest placed _ h => ?_) (fun done placed b h _ _ hb => ?_) directives
  · rw [List.filter_append, List.filter_append, h]
  · rw [List.filter_append, h]
    simp [isDefined_builtin hb]

theorem find?_withBuiltins (hn : isBuiltinName n = false) (types : List NamedType)
    (directives : List DirectiveType) :
    (withBuiltins types directives).find? (·.name == n) = types.find? (·.name == n) := by
  have hdefined : ∀ ts : List NamedType,
      (ts.filter (·.isDefined)).find? (·.name == n) = ts.find? (·.name == n) := by
    intro ts
    rw [List.find?_filter]
    refine congrArg (ts.find? ·) (funext fun t => ?_)
    by_cases ht : t.name = n
    · simp [NamedType.isDefined, ht, hn]
    · simp [ht]
  rw [← hdefined, filter_withBuiltins, hdefined]

/-- What has been placed when some of the types are done: these, and built-in types of other names. -/
structure Placed (types done placed : List NamedType) : Prop where
  distinct : (placed.map (·.name)).Nodup
  kept : ∀ t ∈ done, t ∈ placed
  others : ∀ t ∈ placed, t ∈ done ∨ t.name ∉ types.map (·.name) ∧ Builtin.type? t.name = some t

section Placed
variable {types done placed : List NamedType}

theorem nodup_names_concat {t : NamedType} (h : (placed.map (·.name)).Nodup)
    (hnew : t.name ∉ placed.map (·.name)) : ((placed ++ [t]).map (·.name)).Nodup := by
  rw [List.map_append, List.nodup_append]
  refine ⟨h, List.nodup_singleton _, ?_⟩
  rintro _ hm _ hm' rfl
  rw [List.map_singleton, List.mem_singleton] at hm'
  exact hnew (hm' ▸ hm)

theorem Placed.builtin (h : Placed types done placed) {b : NamedType}
    (hown : b.name ∉ types.map (·.name)) (hnew : b.name ∉ placed.map (·.name))
    (hb : Builtin.type? b.name = some b) : Placed types done (placed ++ [b]) where
  distinct := nodup_names_concat h.distinct hnew
  kept := fun u hu => List.mem_append_left _ (h.kept u hu)
  others := by
    intro u hu
    rcases List.mem_append.mp hu with hu | hu
    · exact h.others u hu
    · rw [List.mem_singleton.mp hu]
      exact .inr ⟨hown, hb⟩

theorem Placed.next (h : Placed types done placed) {t : NamedType} (ht : t ∈ types)
    (hnew : t.name ∉ done.map (·.name)) : Placed types (done ++ [t]) (placed ++ [t]) where
  distinct := by
    refine nodup_names_concat h.distinct fun hmem => ?_
    obtain ⟨u, hu, hum⟩ := List.mem_map.mp hmem
    rcases h.others u hu with hdone | ⟨hother, -⟩
    · exact hnew (hum ▸ List.mem_map_of_mem hdone)
    · exact hother (hum ▸ List.mem_map_of_mem ht)
  kept := by
    intro u hu
    rcases List.mem_append.mp hu with hu | hu
    · exact List.mem_append_left _ (h.kept u hu)
    · exact List.mem_append_right _ hu
  others := by
    intro u hu
    rcases List.mem_append.mp hu with hu | hu
    · exact (h.others u hu).imp_left (List.mem_append_left _)
    · exact .inl (List.mem_append_right _ hu)

/-- Among the built-in types all types are still there, and no name is repeated. -/
theorem withBuiltins_placed (hnodup : (types.map (·.name)).Nodup) (directives : List DirectiveType) :
    Placed types types (withBuiltins types directives) := by
  have hnone : Placed types [] [] :=
    { distinct := List.nodup_nil
      kept := fun _ h => absurd h List.not_mem_nil
      others := fun _ h => absurd h List.not_mem_nil }
  refine withBuiltins_induction hnone (fun done t rest placed hall h => ?_)
    (fun _ _ _ h hown hnew hb => h.builtin hown hnew hb) directives
  refine h.next (hall ▸ List.mem_append_right _ List.mem_cons_self) ?_
  rw [← hall, List.map_append, List.nodup_append] at hnodup
  exact fun hmem => hnodup.2.2 _ hmem t.name (by simp) rfl

end Placed

theorem type?_placeBuiltins (hn : isBuiltinName n = false) (s : Schema) :
    s.placeBuiltins.type? n = s.type? n :=
  find?_withBuiltins hn s.types s.directives

end Placing

/-- The types that were there, with their extensions. -/
def extended (s : Schema) (extensions : List (TypeDefinition Unit)) : List NamedType :=
  s.types.map fun t =>
    if t.isDefined then
      (extensions.filter (·.name == t.name)).foldl extendExisting (t.evaluated s)
    else t.evaluated s

/-- The types that a document defines. -/
def definedTypes (p : Parts) : List NamedType := p.types.map fun d => namedType p.extensions d.1 d.2

/-- The types of a schema with those of a document, each with the extensions of its name. -/
def addedTypes (s : Schema) (p : Parts) : List NamedType :=
  lastByName (·.name) (extended s p.extensions ++ definedTypes p)

/-- The operations that the schema definition of a document and its extensions name. -/
def namedRoots (doc : Document Unit) : List (OperationKind × String) :=
  ((parts doc).schemas.getLast?.map (·.2.operations)).getD []
    ++ (parts doc).schemaExtensions.flatMap (·.operations)

/-- All that is checked where a document is added to a schema, and what comes of it. -/
structure Adds (s : Schema) (doc : Document Unit) (s' : Schema) : Prop where
  extensions : ∀ t ∈ s.types, t.isDefined = true →
    extensionFault (t.evaluated s) ((parts doc).extensions.filter (·.name == t.name)) = .ok ()
  definitions : ∀ d ∈ (parts doc).types, Builtin.type? d.2.name = none →
    definitionFault (parts doc).extensions d.2 = .ok ()
  roots : ∀ o ∈ namedRoots doc, (Draft.ofTypes (addedTypes s (parts doc))).isKnown o.2 = true
  resolves : (Draft.ofTypes (addedTypes s (parts doc))).resolve
    ((s.evaluated.directives.filter (!·.isSpecified)).flatMap (·.arguments)
      ++ (parts doc).directives.flatMap (·.arguments.map inputValue)) = .ok ()
  specified : duplicate? s.evaluated.directives = none
  result : s' =
    { description := ((parts doc).schemas.getLast?.bind (·.1)).or s.description
      types := (addedTypes s (parts doc)).map settle
      directives := lastByName (·.name) s.evaluated.directives
        ++ (parts doc).directives.map directiveType
      query := rootOf .query (namedRoots doc) s.query
      mutation := rootOf .mutation (namedRoots doc) s.mutation
      subscription := rootOf .subscription (namedRoots doc) s.subscription }

theorem adds_of_ok {s s' : Schema} {doc : Document Unit} (h : s.add doc = .ok s') :
    Adds s doc s' := by
  have hexisting : s.evaluated.types.map (fun t =>
      if t.isDefined then
        ((parts doc).extensions.filter (·.name == t.name)).foldl extendExisting t
      else t) = extended s (parts doc).extensions := List.map_map
  unfold Schema.add at h
  obtain ⟨_, hextensions, h⟩ := Except.of_bind_ok h
  obtain ⟨_, hdefinitions, h⟩ := Except.of_bind_ok h
  obtain ⟨_, hroots, h⟩ := Except.of_bind_ok h
  obtain ⟨_, hresolves, h⟩ := Except.of_bind_ok h
  rw [hexisting] at hroots hresolves
  split at h
  · cases h
  · next hnone =>
    refine ⟨fun t ht hdefined => ?_, fun d hd hown => ?_, fun o ho => ?_, hresolves,
      Option.eq_none_iff_forall_ne_some.mpr fun n hn => hnone n hn, ?_⟩
    · exact Except.of_forM_ok hextensions
        (List.mem_filter.mpr ⟨List.mem_map_of_mem (f := NamedType.evaluated s) ht, hdefined⟩)
    · exact Except.of_forM_ok hdefinitions (List.mem_filter.mpr ⟨hd, by rw [hown]; rfl⟩)
    · have hone := Except.of_forM_ok hroots ho
      split at hone
      · assumption
      · cases hone
    · rw [hexisting] at h
      exact (Except.ok.inj h).symm

theorem add_types {s s' : Schema} {doc : Document Unit} (h : s.add doc = .ok s') :
    s'.types = (addedTypes s (parts doc)).map settle
      ∧ s'.query = rootOf .query (namedRoots doc) s.query := by
  obtain rfl := (adds_of_ok h).result
  exact ⟨rfl, rfl⟩

theorem add_names {s s' : Schema} {doc : Document Unit} (h : s.add doc = .ok s') :
    (s'.types.map (·.name)).Nodup := by
  have hsettle : ∀ ts : List NamedType, (ts.map settle).map (·.name) = ts.map (·.name) := by
    intro ts
    rw [List.map_map]
    rfl
  rw [(add_types h).1, hsettle]
  exact lastByName_nodup

theorem definitionFault_kind {extensions : List (TypeDefinition Unit)} {d : TypeDefinition Unit}
    (h : definitionFault extensions d = .ok ()) {e : TypeDefinition Unit}
    (he : e ∈ extensions.filter (·.name == d.name)) : e.body.kind = d.body.kind := by
  by_contra hne
  have hany : ((extensions.filter (·.name == d.name)).any fun e => e.body.kind != d.body.kind)
      = true := List.any_eq_true.mpr ⟨e, he, bne_iff_ne.mpr hne⟩
  simp only [definitionFault, hany, if_true] at h
  split at h
  · obtain ⟨_, -, h⟩ := Except.of_bind_ok h
    cases h
  · obtain ⟨_, -, h⟩ := Except.of_bind_ok h
    cases h
  · cases h

theorem extend_eq {s s' : Schema} {doc : Document Unit} (h : s.extend doc = .ok s') :
    ∃ s₁, s.add doc = .ok s₁ ∧ s₁.placeBuiltins = s' := by
  rw [Schema.extend] at h
  cases hadd : s.add doc with
  | error e => rw [hadd] at h; cases h
  | ok s₁ => rw [hadd] at h; exact ⟨s₁, rfl, Except.ok.inj h⟩

theorem addExtension_name (ds : List (TypeDefinition Unit)) (t : NamedType) :
    (ds.foldl addExtension t).name = t.name := by
  induction ds generalizing t with
  | nil => rfl
  | cons d ds ih => exact ih _

theorem namedType_name (extensions : List (TypeDefinition Unit)) (description : Option String)
    (d : TypeDefinition Unit) : (namedType extensions description d).name = d.name := by
  unfold namedType
  cases h : Builtin.type? d.name with
  | some t => exact (Builtin.type?_name h).1
  | none => exact addExtension_name _ _

theorem extendExisting_name (t : NamedType) (ds : List (TypeDefinition Unit)) :
    (ds.foldl extendExisting t).name = t.name := by
  induction ds generalizing t with
  | nil => rfl
  | cons d ds ih =>
    rw [List.foldl_cons, ih]
    unfold extendExisting
    split <;> rfl

theorem extended_names (s : Schema) (extensions : List (TypeDefinition Unit)) :
    (extended s extensions).map (·.name) = s.types.map (·.name) := by
  rw [extended, List.map_map]
  refine List.map_congr_left fun t _ => ?_
  simp only [Function.comp_apply]
  split
  · exact extendExisting_name _ _
  · rfl

theorem find?_extended (s : Schema) (extensions : List (TypeDefinition Unit)) (n : String) :
    (extended s extensions).find? (·.name == n) = (s.type? n).map fun t =>
      if t.isDefined then
        (extensions.filter (·.name == n)).foldl extendExisting (t.evaluated s)
      else t.evaluated s := by
  have hname : ∀ t : NamedType, (if t.isDefined then
      (extensions.filter (·.name == t.name)).foldl extendExisting (t.evaluated s)
      else t.evaluated s).name = t.name := by
    intro t
    split
    · exact extendExisting_name _ _
    · rfl
  rw [extended, find?_map_of_name hname, Schema.type?]
  refine Option.map_congr fun t ht => ?_
  rw [(Schema.mem_of_type? ht).2]

/-- A name leads to the last type that is defined with it, or else to the one that was there. -/
theorem find?_added {s s' : Schema} {doc : Document Unit} (h : s.add doc = .ok s')
    (hnames : (s.types.map (·.name)).Nodup) (n : String) :
    s'.type? n = (((definedTypes (parts doc)).reverse.find? (·.name == n)).or
      ((extended s (parts doc).extensions).find? (·.name == n))).map settle := by
  have hsettle : ∀ t : NamedType, (settle t).name = t.name := fun _ => rfl
  have hlast := find?_reverse_of_nodup (by rw [extended_names]; exact hnames :
    ((extended s (parts doc).extensions).map (·.name)).Nodup) n
  rw [Schema.type?, (add_types h).1, addedTypes, find?_map_of_name hsettle, find?_lastByName,
    List.reverse_append, List.find?_append, hlast]

end Build

namespace Federation
open Build

/-- The types of a schema have different names, and a query root that it has is an object type of its
own. -/
structure Rooted (s : Schema) : Prop where
  names : (s.types.map (·.name)).Nodup
  root : ∀ q, s.query = some q → s.isObject q = true ∧ isBuiltinName q = false

/-- The field that resolves representations, as the protocol defines it. -/
def entitiesFieldType : Field := Build.field entitiesFieldDefinition

/-- The query root that a schema has, or the one that it is given. -/
def rootName (s : Schema) : String := s.query.getD defaultQuery

/-- Whether there is no object type for the query root. -/
def createsRoot (s : Schema) : Bool := s.query.isNone && !s.isObject defaultQuery

section Root
variable {s s' : Schema} {es : List String}

/-- The definitions of types among the additions that every schema takes, and those that only some
take. -/
def commonDefinitions (s : Schema) (es : List String) : List (Option String × TypeDefinition Unit) :=
  [(none, ⟨(), anyScalar, [], .scalar⟩),
   (none, ⟨(), serviceType, [], .object [] [⟨none, "sdl", [], .named "String", []⟩]⟩)]
    ++ (if es.isEmpty then [] else [(none, ⟨(), entityUnion, [], .union es⟩)])
    ++ (if (s.type? fieldSetScalar).isNone then [(none, ⟨(), fieldSetScalar, [], .scalar⟩)] else [])

theorem parts_queryDefinitions (s : Schema) (es : List String) :
    (parts (queryDefinitions s es)).types
        = (if createsRoot s then [(none, queryBody defaultQuery es)] else [])
      ∧ (parts (queryDefinitions s es)).extensions
        = (if createsRoot s then [] else [queryBody (rootName s) es])
      ∧ (parts (queryDefinitions s es)).schemas = []
      ∧ (parts (queryDefinitions s es)).schemaExtensions.flatMap (·.operations)
        = if s.query.isNone then [(.query, defaultQuery)] else [] := by
  unfold queryDefinitions createsRoot rootName
  cases s.query with
  | some q => exact ⟨rfl, rfl, rfl, rfl⟩
  | none => cases s.isObject defaultQuery <;> exact ⟨rfl, rfl, rfl, rfl⟩

theorem parts_additions (s : Schema) (es : List String) :
    (parts (additions s es)).types
        = commonDefinitions s es
          ++ (if createsRoot s then [(none, queryBody defaultQuery es)] else [])
      ∧ (parts (additions s es)).extensions
        = (if createsRoot s then [] else [queryBody (rootName s) es])
      ∧ (parts (additions s es)).schemas = []
      ∧ (parts (additions s es)).schemaExtensions.flatMap (·.operations)
        = if s.query.isNone then [(.query, defaultQuery)] else [] := by
  obtain ⟨htypes, hextensions, hschemas, hroots⟩ := parts_queryDefinitions s es
  rw [← htypes, ← hextensions, ← hschemas, ← hroots]
  unfold additions commonDefinitions
  simp only [parts_append]
  cases es.isEmpty <;> cases (s.type? fieldSetScalar).isNone <;>
    cases (s.directive? keyDirective).isNone <;> cases (s.directive? extendsDirective).isNone <;>
    exact ⟨rfl, rfl, rfl, rfl⟩

theorem query_add (h : s.add (additions s es) = .ok s') : s'.query = some (rootName s) := by
  obtain ⟨-, -, hschemas, hroots⟩ := parts_additions s es
  rw [(add_types h).2, namedRoots, hschemas, hroots, rootName]
  cases s.query <;> rfl

theorem rootName_extend (h : s.extend (additions s es) = .ok s') :
    s'.query = some (rootName s) ∧ rootName s' = rootName s := by
  obtain ⟨s₁, hadd, rfl⟩ := extend_eq h
  have hquery : s₁.placeBuiltins.query = some (rootName s) := (query_add hadd : s₁.query = _)
  exact ⟨hquery, by rw [rootName, hquery, Option.getD_some]⟩

theorem commonDefinitions_names {d : Option String × TypeDefinition Unit}
    (hd : d ∈ commonDefinitions s es) :
    d.2.name = anyScalar ∨ d.2.name = serviceType ∨ (d.2.name = entityUnion ∧ es ≠ [])
      ∨ (d.2.name = fieldSetScalar ∧ s.type? fieldSetScalar = none) := by
  simp only [commonDefinitions, List.mem_append] at hd
  rcases hd with (hd | hd) | hd
  · rcases List.mem_cons.mp hd with rfl | hd
    · exact .inl rfl
    · rw [List.mem_singleton.mp hd]
      exact .inr (.inl rfl)
  · split at hd
    · cases hd
    · next hes =>
      rw [List.mem_singleton.mp hd]
      exact .inr (.inr (.inl ⟨rfl, fun h => hes (by rw [h]; rfl)⟩))
  · split at hd
    · next hnone =>
      rw [List.mem_singleton.mp hd]
      exact .inr (.inr (.inr ⟨rfl, Option.isNone_iff_eq_none.mp hnone⟩))
    · cases hd

theorem find?_commonDefinitions_union (hes : es ≠ []) :
    (commonDefinitions s es).find? (·.2.name == entityUnion)
      = some (none, ⟨(), entityUnion, [], .union es⟩) := by
  have hempty : es.isEmpty = false := by simpa using hes
  simp [commonDefinitions, hempty, anyScalar, serviceType, entityUnion]

theorem find?_commonDefinitions_no_union (s : Schema) :
    (commonDefinitions s []).find? (·.2.name == entityUnion) = none := by
  unfold commonDefinitions
  cases (s.type? fieldSetScalar).isNone <;> decide

theorem find?_commonDefinitions (extensions : List (TypeDefinition Unit)) (n : String) :
    ((commonDefinitions s es).map fun d => namedType extensions d.1 d.2).reverse.find? (·.name == n)
      = ((commonDefinitions s es).find? (·.2.name == n)).map fun d =>
          namedType extensions d.1 d.2 := by
  have hdistinct : ((commonDefinitions s es).map (·.2.name)).Nodup := by
    unfold commonDefinitions
    cases es.isEmpty <;> cases (s.type? fieldSetScalar).isNone <;>
      simp [anyScalar, serviceType, entityUnion, fieldSetScalar]
  have hnames : ((commonDefinitions s es).map fun d => namedType extensions d.1 d.2).map (·.name)
      = (commonDefinitions s es).map (·.2.name) := by
    rw [List.map_map]
    exact List.map_congr_left fun d _ => namedType_name _ _ _
  rw [find?_reverse_of_nodup (hnames ▸ hdistinct), List.find?_map]
  simp only [Function.comp_def, namedType_name]

/-- The names of the fields of an object type. -/
def fieldNamesOf (s : Schema) (n : String) : List String :=
  match s.shape? n with
  | some (.object _ fs) => fs.map (·.name)
  | _ => []

theorem fieldNamesOf_of_not_object {n : String} (h : s.isObject n = false) :
    fieldNamesOf s n = [] := by
  unfold fieldNamesOf
  unfold Schema.isObject at h
  split
  · next hshape => rw [hshape] at h; cases h
  · rfl

theorem Rooted.root_defined (hr : Rooted s) : isBuiltinName (rootName s) = false := by
  cases hq : s.query with
  | some q =>
    rw [rootName, hq]
    exact (hr.root q hq).2
  | none =>
    rw [rootName, hq]
    decide

theorem mem_names_iff {n : String} : n ∈ s.types.map (·.name) ↔ s.type? n ≠ none :=
  (not_iff_comm.mp find?_eq_none_iff_not_mem.symm).symm

theorem Rooted.of_root (hw : s.WellFormed) (hroot : ∀ t, s.type? (rootName s) = some t →
    t.shape.isObject = true ∧ t.isDefined = true) : Rooted s where
  names := hw.names
  root := by
    intro q hq
    obtain ⟨t, ht, hname⟩ := List.mem_map.mp (hw.roots .query q hq)
    have htype := Schema.type?_of_mem hw.names ht
    obtain ⟨hobject, hdefined⟩ := hroot t (by rw [rootName, hq, ← hname]; exact htype)
    rw [← hname]
    refine ⟨?_, by simpa [NamedType.isDefined] using hdefined⟩
    rw [Schema.isObject, Schema.shape?, htype]
    exact hobject

theorem Growable.isRooted (h : Growable s) (hw : s.WellFormed) : Rooted s := by
  refine .of_root hw fun u hu => ?_
  obtain ⟨hmem, hname⟩ := Schema.mem_of_type? hu
  cases h with
  | rootless hquery hfree =>
    rw [rootName, hquery, Option.getD_none, hfree] at hu
    cases hu
  | rooted t ht hroot hobject hdefined _ =>
    rw [rootName, hroot, Option.getD_some, Schema.type?_of_mem hw.names ht] at hu
    cases hu
    exact ⟨hobject, hdefined⟩

theorem field?_settled {t : NamedType} {is : List String} {fs : List Field} {f : Field} {n : String}
    (ht : t.shape = .object is (fs ++ protocolFieldTypes es))
    (hf : ((protocolFieldTypes es).map settleField).reverse.find? (·.name == n) = some f) :
    (settle t).field? n = some f := by
  rw [NamedType.field?, settle, ht]
  show (lastByName Field.name _).find? (fun f => f.name == n) = _
  rw [find?_lastByName, List.map_append, List.reverse_append, List.find?_append, hf]
  rfl

theorem find?_protocol_service (es : List String) :
    ((protocolFieldTypes es).map settleField).reverse.find? (·.name == serviceField)
      = some (Build.field serviceFieldDefinition) := by
  rw [protocolFieldTypes_eq]
  cases es.isEmpty <;> rfl

theorem find?_protocol_entities (hes : es ≠ []) :
    ((protocolFieldTypes es).map settleField).reverse.find? (·.name == entitiesField)
      = some entitiesFieldType := by
  have hempty : es.isEmpty = false := by simpa using hes
  rw [protocolFieldTypes_eq, hempty]
  rfl

theorem extended_root (es : List String) {q : String} (hobject : s.isObject q = true)
    (hdefined : isBuiltinName q = false) :
    ∃ t is fs, (extended s [queryBody q es]).find? (·.name == q) = some t ∧ t.name = q
      ∧ t.shape = .object is (fs ++ protocolFieldTypes es)
      ∧ fs.map (·.name) = fieldNamesOf s q := by
  obtain ⟨t, ht, hshape⟩ : ∃ t, s.type? q = some t ∧ t.shape.isObject = true := by
    rw [Schema.isObject, Schema.shape?] at hobject
    cases ht : s.type? q with
    | none => rw [ht] at hobject; cases hobject
    | some t => rw [ht] at hobject; exact ⟨t, rfl, hobject⟩
  have hname : t.name = q := (Schema.mem_of_type? ht).2
  have hown : t.isDefined = true := by rw [NamedType.isDefined, hname, hdefined]; rfl
  cases hs : t.shape with
  | object is fs =>
    refine ⟨addExtension (t.evaluated s) (queryBody q es), is, fs.map fun f =>
      { f with arguments := f.arguments.map (·.evaluated s) }, ?_, hname, ?_, ?_⟩
    · rw [find?_extended, ht, Option.map_some, hown]
      have hbody : ((queryBody q es).name == q) = true := beq_self_eq_true q
      simp only [if_true, List.filter_cons, hbody, List.filter_nil, List.foldl_cons, List.foldl_nil]
      simp [extendExisting, NamedType.evaluated, hs, TypeShape.mapInputs, shape, queryBody]
    · simp [addExtension, NamedType.evaluated, hs, TypeShape.mapInputs, shape, queryBody, addShape,
        protocolFieldTypes]
    · rw [fieldNamesOf, Schema.shape?, ht, Option.map_some, hs, List.map_map]
      rfl
  | _ => rw [hs] at hshape; cases hshape

theorem root_ne_of_add (h : s.add (additions s es) = .ok s') (hcreates : createsRoot s = false) :
    rootName s ≠ anyScalar ∧ (es ≠ [] → rootName s ≠ entityUnion) := by
  obtain ⟨htypes, hextensions, -, -⟩ := parts_additions s es
  have hkind : ∀ d ∈ commonDefinitions s es, rootName s = d.2.name →
      Builtin.type? d.2.name = none → "Object" = d.2.body.kind := by
    intro d hd hname hbuiltin
    have hsound := (adds_of_ok h).definitions d (htypes ▸ List.mem_append_left _ hd) hbuiltin
    rw [hextensions, hcreates] at hsound
    exact definitionFault_kind hsound
      (List.mem_filter.mpr ⟨List.mem_singleton_self _, beq_iff_eq.mpr hname⟩)
  constructor
  · intro hany
    have hmem : (none, ⟨(), anyScalar, [], .scalar⟩) ∈ commonDefinitions s es := by
      simp [commonDefinitions]
    exact absurd (hkind _ hmem hany (by decide +kernel)) (by decide)
  · intro hes hentity
    have hempty : es.isEmpty = false := by simpa using hes
    have hmem : (none, ⟨(), entityUnion, [], .union es⟩) ∈ commonDefinitions s es := by
      simp [commonDefinitions, hempty]
    have hbuiltin : Builtin.type? entityUnion = none := by decide +kernel
    exact absurd (hkind _ hmem hentity hbuiltin) (by simp [TypeBody.kind])

theorem find?_commonDefinitions_root (h : s.add (additions s es) = .ok s')
    (hcreates : createsRoot s = false) (hobject : s.isObject (rootName s) = true)
    (hservice : rootName s ≠ serviceType) :
    (commonDefinitions s es).find? (·.2.name == rootName s) = none := by
  obtain ⟨hany, hentity⟩ := root_ne_of_add h hcreates
  refine List.find?_eq_none.mpr fun d hd hname => ?_
  have hname : d.2.name = rootName s := eq_of_beq hname
  rcases commonDefinitions_names hd with hd | hd | ⟨hd, hes⟩ | ⟨hd, hnone⟩
  · exact hany (hname ▸ hd)
  · exact hservice (hname ▸ hd)
  · exact hentity hes (hname ▸ hd)
  · rw [← hname, hd, Schema.isObject, Schema.shape?, hnone] at hobject
    cases hobject

/-- What a name leads to after the additions: the created root, a type that they define, or what was
there with its extensions. -/
theorem type?_add (hnames : (s.types.map (·.name)).Nodup) (h : s.add (additions s es) = .ok s')
    (n : String) : s'.type? n =
      (((if createsRoot s && n == defaultQuery then some (queryType es) else none).or
        (((commonDefinitions s es).find? (·.2.name == n)).map fun d =>
          namedType (if createsRoot s then [] else [queryBody (rootName s) es]) d.1 d.2)).or
        ((extended s (if createsRoot s then [] else [queryBody (rootName s) es])).find?
          (·.name == n))).map settle := by
  obtain ⟨htypes, hextensions, -, -⟩ := parts_additions s es
  have hcreated : namedType [] none (queryBody defaultQuery es) = queryType es := by
    have hbuiltin : Builtin.type? defaultQuery = none := by decide +kernel
    unfold namedType
    simp only [queryBody, hbuiltin, List.filter_nil, List.foldl_nil]
    rfl
  rw [find?_added h hnames, definedTypes, htypes, hextensions, List.map_append, List.reverse_append,
    List.find?_append, find?_commonDefinitions]
  congr 3
  cases createsRoot s with
  | false => rfl
  | true =>
    have hname : ((queryType es).name == n) = (n == defaultQuery) := BEq.comm
    simp only [if_true, List.map_cons, List.map_nil, List.reverse_singleton, hcreated,
      List.find?_singleton, hname, Bool.true_and]

theorem Rooted.any_add (hr : Rooted s) (h : s.add (additions s es) = .ok s') :
    s'.type? anyScalar = some anyType := by
  have hbuiltin : Builtin.type? anyScalar = none := by decide +kernel
  have hother : (if createsRoot s then [] else [queryBody (rootName s) es]).filter
      (·.name == anyScalar) = [] := by
    split
    · rfl
    · next hcreates =>
      have hne := (root_ne_of_add h (Bool.not_eq_true _ |>.mp hcreates)).1
      simp [queryBody, hne]
  rw [type?_add hr.names h, show (anyScalar == defaultQuery) = false by decide, Bool.and_false]
  simp only [commonDefinitions, List.cons_append, List.find?_cons, beq_self_eq_true, Option.map_some,
    namedType, hbuiltin, hother, List.foldl_nil]
  rfl

theorem Rooted.union_add (hr : Rooted s) (hes : es ≠ []) (h : s.add (additions s es) = .ok s') :
    s'.type? entityUnion = some (entityType es) := by
  have hbuiltin : Builtin.type? entityUnion = none := by decide +kernel
  have hother : (if createsRoot s then [] else [queryBody (rootName s) es]).filter
      (·.name == entityUnion) = [] := by
    split
    · rfl
    · next hcreates =>
      have hne := (root_ne_of_add h (Bool.not_eq_true _ |>.mp hcreates)).2 hes
      simp [queryBody, hne]
  rw [type?_add hr.names h, show (entityUnion == defaultQuery) = false by decide, Bool.and_false,
    find?_commonDefinitions_union hes]
  simp only [Option.map_some, namedType, hbuiltin, hother, List.foldl_nil]
  rfl

/-- The query root comes out as an object type whose last fields are those of the protocol. The
fields before them are its own, unless it is the service type, which the protocol defines. -/
theorem Rooted.root_add (hr : Rooted s) (h : s.add (additions s es) = .ok s') :
    ∃ t is fs, s'.type? (rootName s) = some (settle t) ∧ t.name = rootName s
      ∧ t.shape = .object is (fs ++ protocolFieldTypes es)
      ∧ (rootName s ≠ serviceType → fs.map (·.name) = fieldNamesOf s (rootName s)) := by
  rw [type?_add hr.names h]
  cases hcreates : createsRoot s with
  | true =>
    obtain ⟨hquery, hobject⟩ : s.query = none ∧ s.isObject defaultQuery = false := by
      simpa [createsRoot] using hcreates
    have hroot : rootName s = defaultQuery := by rw [rootName, hquery]; rfl
    refine ⟨queryType es, [], [], ?_, hroot.symm, rfl, fun _ => ?_⟩
    · rw [hroot]
      rfl
    · rw [hroot, fieldNamesOf_of_not_object hobject]
      rfl
  | false =>
    obtain ⟨hobject, hbuiltin⟩ : s.isObject (rootName s) = true
        ∧ isBuiltinName (rootName s) = false := by
      cases hq : s.query with
      | some q =>
        rw [rootName, hq]
        exact hr.root q hq
      | none =>
        rw [rootName, hq]
        refine ⟨?_, by decide⟩
        simpa [createsRoot, hq] using hcreates
    simp only [Bool.false_and, Bool.false_eq_true, if_false, Option.none_or]
    by_cases hservice : rootName s = serviceType
    -- A query root that is the service type is defined anew, and then extended.
    · have hnone : Builtin.type? serviceType = none := by decide +kernel
      have hfind : (commonDefinitions s es).find? (·.2.name == serviceType) = some
          (none, ⟨(), serviceType, [], .object [] [⟨none, "sdl", [], .named "String", []⟩]⟩) := by
        simp [commonDefinitions, anyScalar, serviceType]
      refine ⟨namedType [queryBody (rootName s) es] none
          ⟨(), serviceType, [], .object [] [⟨none, "sdl", [], .named "String", []⟩]⟩, [],
        [⟨none, "sdl", [], .named "String", none, []⟩], ?_, ?_, ?_, fun hne => absurd hservice hne⟩
      · rw [hservice, hfind]
        rfl
      · rw [hservice]
        exact namedType_name _ _ _
      · have hown : [queryBody (rootName s) es].filter (·.name == serviceType)
            = [queryBody (rootName s) es] := by simp [queryBody, hservice]
        simp only [namedType, hnone, hown, List.foldl_cons, List.foldl_nil]
        rfl
    · have hfind := find?_commonDefinitions_root h hcreates hobject hservice
      obtain ⟨t, is, fs, ht, hname, hshape, hfields⟩ := extended_root es hobject hbuiltin
      exact ⟨t, is, fs, by rw [hfind, ht]; rfl, hname, hshape, fun _ => hfields⟩

/-- A schema that has taken the protocol definitions has the field for the service at its query root,
an object type. -/
theorem Rooted.extend_root (hr : Rooted s) (h : s.extend (additions s es) = .ok s') :
    ∃ t, s'.query = some t.name ∧ s'.type? t.name = some t ∧ t.name = rootName s
      ∧ t.shape.isObject = true ∧ t.field? serviceField = some (Build.field serviceFieldDefinition)
      ∧ (es ≠ [] → t.field? entitiesField = some entitiesFieldType) := by
  obtain ⟨s₁, hadd, rfl⟩ := extend_eq h
  obtain ⟨t, is, fs, ht, hname, hshape, -⟩ := hr.root_add hadd
  have hsettle : (settle t).name = t.name := rfl
  refine ⟨settle t, ?_, ?_, hname, ?_, field?_settled hshape (find?_protocol_service es),
    fun hes => field?_settled hshape (find?_protocol_entities hes)⟩
  · rw [hsettle, hname]
    exact (query_add hadd : s₁.query = some (rootName s))
  · rw [hsettle, hname, type?_placeBuiltins hr.root_defined, ht]
  · rw [settle, hshape]
    rfl

theorem Rooted.extend (hr : Rooted s) (hes : es ≠ []) (h : s.extend (additions s es) = .ok s') :
    ∃ t, s'.query = some t.name ∧ s'.type? t.name = some t
      ∧ t.field? entitiesField = some entitiesFieldType
      ∧ s'.type? anyScalar = some anyType := by
  obtain ⟨t, hquery, htype, -, -, -, hentities⟩ := hr.extend_root h
  obtain ⟨s₁, hadd, rfl⟩ := extend_eq h
  exact ⟨t, hquery, htype, hentities hes, by rw [type?_placeBuiltins (by decide), hr.any_add hadd]⟩

end Root

end Federation
end Subgraph
