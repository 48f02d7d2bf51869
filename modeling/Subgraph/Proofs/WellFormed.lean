import Subgraph.Proofs.Coercion
import Subgraph.Proofs.Naming
import Subgraph.Schema.Build

/-!
# Well-formed schemas

What holds of a schema that has been built: names are made of the characters for names and are not
repeated, every reference leads to a type that fits its place, the built-in types in use are there,
and deprecations can be read.
Taking the values of defaults in place of how they are written changes nothing of this.
-/

namespace Subgraph

namespace TypeShape

/-- The members of a union. -/
def members : TypeShape → List String
  | .union ms => ms
  | _ => []

/-- The fields of an input type, or the arguments of all fields. -/
def inputs : TypeShape → List InputValue
  | .input _ fs => fs
  | s => s.fields.flatMap (·.arguments)

theorem mem_inputs {shape : TypeShape} {f : Field} (hf : f ∈ shape.fields) {v : InputValue}
    (hv : v ∈ f.arguments) : v ∈ shape.inputs := by
  have hmem : v ∈ shape.fields.flatMap (·.arguments) := List.mem_flatMap.mpr ⟨f, hf, hv⟩
  cases shape with
  | input _ fs => cases hf
  | _ => exact hmem

/-- No two members have one name. -/
def Distinct : TypeShape → Prop
  | .object _ fs => (fs.map (·.name)).Nodup ∧ ∀ f ∈ fs, (f.arguments.map (·.name)).Nodup
  | .interface _ fs => (fs.map (·.name)).Nodup ∧ ∀ f ∈ fs, (f.arguments.map (·.name)).Nodup
  | .enum vs => (vs.map (·.name)).Nodup
  | .input _ fs => (fs.map (·.name)).Nodup
  | _ => True

instance : DecidablePred Distinct := fun s =>
  match s with
  | .object _ fs => inferInstanceAs (Decidable ((fs.map (·.name)).Nodup
      ∧ ∀ f ∈ fs, (f.arguments.map (·.name)).Nodup))
  | .interface _ fs => inferInstanceAs (Decidable ((fs.map (·.name)).Nodup
      ∧ ∀ f ∈ fs, (f.arguments.map (·.name)).Nodup))
  | .enum vs => inferInstanceAs (Decidable (vs.map (·.name)).Nodup)
  | .input _ fs => inferInstanceAs (Decidable (fs.map (·.name)).Nodup)
  | .scalar _ => isTrue trivial
  | .union _ => isTrue trivial

/-- What a type is for, apart from its members. -/
structure SameKind (a b : TypeShape) : Prop where
  object : b.isObject = a.isObject
  interface : b.isInterface = a.isInterface
  union : b.isUnion = a.isUnion
  input : b.isInput = a.isInput
  output : b.isOutput = a.isOutput

theorem SameKind.refl (a : TypeShape) : SameKind a a := ⟨rfl, rfl, rfl, rfl, rfl⟩

theorem SameKind.symm {a b : TypeShape} (h : SameKind a b) : SameKind b a :=
  ⟨h.object.symm, h.interface.symm, h.union.symm, h.input.symm, h.output.symm⟩

theorem SameKind.trans {a b c : TypeShape} (h : SameKind a b) (h' : SameKind b c) : SameKind a c :=
  ⟨h'.object.trans h.object, h'.interface.trans h.interface, h'.union.trans h.union,
    h'.input.trans h.input, h'.output.trans h.output⟩

theorem SameKind.of_mapInputs (f : InputValue → InputValue) (a : TypeShape) :
    SameKind a (a.mapInputs f) := by
  cases a <;> exact ⟨rfl, rfl, rfl, rfl, rfl⟩

section MapInputs
variable (f : InputValue → InputValue) (s : TypeShape)

@[simp] theorem interfaces_mapInputs : (s.mapInputs f).interfaces = s.interfaces := by
  cases s <;> rfl

@[simp] theorem members_mapInputs : (s.mapInputs f).members = s.members := by
  cases s <;> rfl

@[simp] theorem isObject_mapInputs : (s.mapInputs f).isObject = s.isObject := by
  cases s <;> rfl

@[simp] theorem isInput_mapInputs : (s.mapInputs f).isInput = s.isInput := by
  cases s <;> rfl

theorem fields_mapInputs : (s.mapInputs f).fields
    = s.fields.map fun g => { g with arguments := g.arguments.map f } := by
  cases s <;> rfl

theorem inputs_mapInputs : (s.mapInputs f).inputs = s.inputs.map f := by
  cases s <;> simp [mapInputs, inputs, TypeShape.fields, List.flatMap_map, List.map_flatMap]

theorem Distinct.mapInputs {f : InputValue → InputValue} (hf : ∀ v, (f v).name = v.name)
    {s : TypeShape} (h : s.Distinct) : (s.mapInputs f).Distinct := by
  have hnames : ∀ vs : List InputValue, (vs.map f).map (·.name) = vs.map (·.name) := by
    intro vs
    rw [List.map_map]
    exact List.map_congr_left fun v _ => hf v
  have hfields : ∀ fs : List Field,
      (fs.map (·.name)).Nodup ∧ (∀ g ∈ fs, (g.arguments.map (·.name)).Nodup) →
      ((fs.map fun g => { g with arguments := g.arguments.map f }).map (·.name)).Nodup
        ∧ ∀ g ∈ fs.map fun g => { g with arguments := g.arguments.map f },
            (g.arguments.map (·.name)).Nodup := by
    rintro fs ⟨hdistinct, hargs⟩
    refine ⟨by rw [List.map_map]; exact hdistinct, fun g hg => ?_⟩
    obtain ⟨g', hg', rfl⟩ := List.mem_map.mp hg
    exact (hnames g'.arguments).symm ▸ hargs g' hg'
  cases s with
  | object is fs => exact hfields fs h
  | interface is fs => exact hfields fs h
  | input o fs =>
    show ((fs.map f).map (·.name)).Nodup
    rw [hnames fs]
    exact h
  | _ => exact h

end MapInputs
end TypeShape

/-- Settling a type whose members have different names keeps it as it is. -/
theorem Build.settle_of_distinct {t : NamedType} (h : t.shape.Distinct) : Build.settle t = t := by
  have hfields : ∀ fs : List Field,
      (fs.map (·.name)).Nodup ∧ (∀ g ∈ fs, (g.arguments.map (·.name)).Nodup) →
      lastByName (·.name) (fs.map Build.settleField) = fs := by
    rintro fs ⟨hdistinct, hargs⟩
    have hsame : fs.map Build.settleField = fs := by
      refine (List.map_congr_left fun g hg => ?_).trans (List.map_id fs)
      rw [Build.settleField, lastByName_of_nodup (hargs g hg), id]
    rw [hsame, lastByName_of_nodup hdistinct]
  obtain ⟨d, n, shape, applied⟩ := t
  cases shape with
  | object is fs => simp only [Build.settle, hfields fs h]
  | interface is fs => simp only [Build.settle, hfields fs h]
  | enum vs => simp only [Build.settle, lastByName_of_nodup h]
  | input o fs => simp only [Build.settle, lastByName_of_nodup h]
  | scalar url => rfl
  | union ms => rfl

/-- A deprecation can be read where it has a reason that is a text, or none. -/
def HasReadableDeprecation (applied : List Applied) : Prop :=
  Build.sound (Build.deprecation applied) = .ok ()

instance : DecidablePred HasReadableDeprecation := fun applied =>
  match h : Build.sound (Build.deprecation applied) with
  | .ok () => isTrue h
  | .error _ => isFalse fun h' => by rw [HasReadableDeprecation, h] at h'; cases h'

/-- An argument or input field of a known input type. -/
structure InputValue.Fits (s : Schema) (v : InputValue) : Prop where
  type : (s.shape? v.type.base).any TypeShape.isInput = true
  deprecation : HasReadableDeprecation v.applied

instance (s : Schema) (v : InputValue) : Decidable (v.Fits s) :=
  decidable_of_iff ((s.shape? v.type.base).any TypeShape.isInput = true
    ∧ HasReadableDeprecation v.applied) ⟨fun h => ⟨h.1, h.2⟩, fun h => ⟨h.type, h.deprecation⟩⟩

/-- Every name that a type refers to leads to a type that fits its place. -/
structure TypeShape.Refers (s : Schema) (shape : TypeShape) : Prop where
  interfaces : ∀ n ∈ shape.interfaces, (s.shape? n).any TypeShape.isInterface = true
  members : ∀ n ∈ shape.members, s.isObject n = true
  fields : ∀ f ∈ shape.fields, (s.shape? f.type.base).any TypeShape.isOutput = true
    ∧ HasReadableDeprecation f.applied
  inputs : ∀ v ∈ shape.inputs, v.Fits s

instance (s : Schema) (shape : TypeShape) : Decidable (shape.Refers s) :=
  decidable_of_iff ((∀ n ∈ shape.interfaces, (s.shape? n).any TypeShape.isInterface = true)
    ∧ (∀ n ∈ shape.members, s.isObject n = true)
    ∧ (∀ f ∈ shape.fields, (s.shape? f.type.base).any TypeShape.isOutput = true
      ∧ HasReadableDeprecation f.applied)
    ∧ ∀ v ∈ shape.inputs, v.Fits s)
    ⟨fun h => ⟨h.1, h.2.1, h.2.2.1, h.2.2.2⟩,
      fun h => ⟨h.interfaces, h.members, h.fields, h.inputs⟩⟩

/-- What building a schema ensures. -/
structure Schema.WellFormed (s : Schema) : Prop where
  names : (s.types.map (·.name)).Nodup
  named : ∀ t ∈ s.types, t.name.toList.all Text.isNameChar = true
  roots : ∀ k n, s.root k = some n → n ∈ s.types.map (·.name)
  distinct : ∀ t ∈ s.types, t.shape.Distinct
  refers : ∀ t ∈ s.types, t.shape.Refers s
  directives : ∀ d ∈ s.directives, ∀ v ∈ d.arguments, v.Fits s
  introspection : (s.type? "__Schema").isSome = true
  texts : (s.shape? "String").any TypeShape.isOutput = true

instance (s : Schema) : Decidable s.WellFormed :=
  decidable_of_iff ((s.types.map (·.name)).Nodup
    ∧ (∀ t ∈ s.types, t.name.toList.all Text.isNameChar = true)
    ∧ (∀ k ∈ [OperationKind.query, .mutation, .subscription], ∀ n ∈ (s.root k).toList,
      n ∈ s.types.map (·.name))
    ∧ (∀ t ∈ s.types, t.shape.Distinct)
    ∧ (∀ t ∈ s.types, t.shape.Refers s)
    ∧ (∀ d ∈ s.directives, ∀ v ∈ d.arguments, v.Fits s)
    ∧ (s.type? "__Schema").isSome = true
    ∧ (s.shape? "String").any TypeShape.isOutput = true)
    ⟨fun ⟨hnames, hnamed, hroots, hdistinct, hrefers, hdirectives, hintrospection, htexts⟩ =>
      ⟨hnames, hnamed, fun k n hn => hroots k (by cases k <;> simp) n (Option.mem_toList.mpr hn),
        hdistinct, hrefers, hdirectives, hintrospection, htexts⟩,
      fun h => ⟨h.names, h.named, fun k _ n hn => h.roots k n (Option.mem_toList.mp hn), h.distinct,
        h.refers, h.directives, h.introspection, h.texts⟩⟩

theorem Schema.type?_of_mem {s : Schema} (h : (s.types.map (·.name)).Nodup) {t : NamedType}
    (ht : t ∈ s.types) : s.type? t.name = some t := find?_of_mem h ht

theorem Schema.mem_of_type? {s : Schema} {n : String} {t : NamedType} (h : s.type? n = some t) :
    t ∈ s.types ∧ t.name = n := by
  refine ⟨List.mem_of_find?_eq_some h, ?_⟩
  have hn := List.find?_some h
  exact eq_of_beq hn

theorem Schema.shape?_of_mem {s : Schema} (h : (s.types.map (·.name)).Nodup) {t : NamedType}
    (ht : t ∈ s.types) : s.shape? t.name = some t.shape := by
  rw [Schema.shape?, Schema.type?_of_mem h ht, Option.map_some]

theorem Schema.mem_of_shape? {s : Schema} {n : String} {shape : TypeShape}
    (h : s.shape? n = some shape) : ∃ t ∈ s.types, t.name = n ∧ t.shape = shape := by
  obtain ⟨t, ht, rfl⟩ := Option.map_eq_some_iff.mp h
  obtain ⟨hmem, hn⟩ := Schema.mem_of_type? ht
  exact ⟨t, hmem, hn, rfl⟩

theorem Schema.mem_names_of_any {s : Schema} {n : String} {p : TypeShape → Bool}
    (h : (s.shape? n).any p = true) : n ∈ s.types.map (·.name) := by
  cases hs : s.shape? n with
  | none =>
    rw [hs] at h
    cases h
  | some shape =>
    obtain ⟨t, ht, rfl, -⟩ := Schema.mem_of_shape? hs
    exact List.mem_map_of_mem ht

theorem TypeShape.Refers.references {s : Schema} {t : NamedType} (h : t.shape.Refers s) {n : String}
    (hn : n ∈ Build.references t) : n ∈ s.types.map (·.name) := by
  have hfields : ∀ (is : List String) (fs : List Field), t.shape.interfaces = is →
      t.shape.fields = fs →
      n ∈ is ++ fs.flatMap (fun f => f.type.base :: f.arguments.map (·.type.base)) →
      n ∈ s.types.map (·.name) := by
    rintro is fs rfl rfl hmem
    rcases List.mem_append.mp hmem with hmem | hmem
    · exact Schema.mem_names_of_any (h.interfaces n hmem)
    · obtain ⟨f, hf, hmem⟩ := List.mem_flatMap.mp hmem
      rcases List.mem_cons.mp hmem with rfl | hmem
      · exact Schema.mem_names_of_any (h.fields f hf).1
      · obtain ⟨v, hv, rfl⟩ := List.mem_map.mp hmem
        exact Schema.mem_names_of_any (h.inputs v (TypeShape.mem_inputs hf hv)).type
  unfold Build.references at hn
  cases hs : t.shape with
  | union ms =>
    rw [hs] at hn
    exact Schema.mem_names_of_any (h.members n (by rw [hs]; exact hn))
  | input o fs =>
    rw [hs] at hn
    obtain ⟨v, hv, rfl⟩ := List.mem_map.mp hn
    exact Schema.mem_names_of_any (h.inputs v (by rw [hs]; exact hv)).type
  | object is fs =>
    rw [hs] at hn
    exact hfields is fs (by rw [hs]; rfl) (by rw [hs]; rfl) hn
  | interface is fs =>
    rw [hs] at hn
    exact hfields is fs (by rw [hs]; rfl) (by rw [hs]; rfl) hn
  | scalar url =>
    rw [hs] at hn
    cases hn
  | enum vs =>
    rw [hs] at hn
    cases hn

theorem Build.withBuiltins_of_known {types : List NamedType} {directives : List DirectiveType}
    (htypes : ∀ t ∈ types, ∀ n ∈ references t, n ∈ types.map (·.name))
    (hdirectives : ∀ d ∈ directives, ∀ v ∈ d.arguments, v.type.base ∈ types.map (·.name))
    (hintrospection : "__Schema" ∈ types.map (·.name)) :
    withBuiltins types directives = types := by
  have hown : ∀ n ∈ types.map (·.name), (types.any (·.name == n)) = true := by
    intro n hn
    obtain ⟨t, ht, rfl⟩ := List.mem_map.mp hn
    exact List.any_eq_true.mpr ⟨t, ht, beq_self_eq_true _⟩
  -- Every name is known, so no step places a type: not along names, and so not along types.
  have hnone : ∀ (names : List String) (ts : List NamedType),
      (∀ n ∈ names, n ∈ types.map (·.name)) →
      names.foldl (addBuiltin (fun n => types.any (·.name == n)) builtinDepth) ts = ts := by
    intro names
    induction names with
    | nil => exact fun _ _ => rfl
    | cons n names ih =>
      intro ts hnames
      have hkept : addBuiltin (fun n => types.any (·.name == n)) builtinDepth ts n = ts := by
        rw [show builtinDepth = 12 + 1 from rfl, addBuiltin, hown n (hnames n List.mem_cons_self)]
        rfl
      rw [List.foldl_cons, hkept, ih _ fun m hm => hnames m (List.mem_cons_of_mem n hm)]
  have hplaced : ∀ (ts done : List NamedType), (∀ t ∈ ts, t ∈ types) →
      ts.foldl (fun acc t => (references t).foldl
        (addBuiltin (fun n => types.any (·.name == n)) builtinDepth) (acc ++ [t])) done
      = done ++ ts := by
    intro ts
    induction ts with
    | nil => simp
    | cons t ts ih =>
      intro done hts
      have ht := hnone (references t) (done ++ [t]) (htypes t (hts t List.mem_cons_self))
      rw [List.foldl_cons, ht, ih _ fun u hu => hts u (List.mem_cons_of_mem t hu),
        List.append_assoc]
      rfl
  have hall := hplaced types [] fun _ h => h
  have hbases := hnone (directives.flatMap fun d => d.arguments.map (·.type.base)) ([] ++ types)
    fun n hn => by
      obtain ⟨d, hd, hn⟩ := List.mem_flatMap.mp hn
      obtain ⟨v, hv, rfl⟩ := List.mem_map.mp hn
      exact hdirectives d hd v hv
  have hschema := hnone ["__Schema"] ([] ++ types)
    fun n hn => List.mem_singleton.mp hn ▸ hintrospection
  simp only [withBuiltins]
  rw [hall, hbases, hschema]
  rfl

theorem Schema.WellFormed.placeBuiltins {s : Schema} (h : s.WellFormed) : s.placeBuiltins = s := by
  have hintrospection : "__Schema" ∈ s.types.map (·.name) := by
    obtain ⟨t, ht⟩ := Option.isSome_iff_exists.mp h.introspection
    obtain ⟨hmem, hname⟩ := Schema.mem_of_type? ht
    exact hname ▸ List.mem_map_of_mem hmem
  rw [Schema.placeBuiltins, Build.withBuiltins_of_known
    (fun t ht n hn => (h.refers t ht).references hn)
    (fun d hd v hv => Schema.mem_names_of_any (h.directives d hd v hv).type) hintrospection]

section Evaluated
variable {s s' : Schema}

theorem InputValue.default_evaluated (v : InputValue) : (v.evaluated s).default s' = v.default s := by
  simp only [InputValue.default, InputValue.evaluated]
  cases h : v.default s with
  | none =>
    rw [InputValue.default] at h
    simp [h]
  | some d =>
    rw [InputValue.default] at h
    simp [h]

theorem InputValue.Fits.evaluated {v : InputValue} (h : v.Fits s') : (v.evaluated s).Fits s' :=
  ⟨h.type, h.deprecation⟩

def NamedType.evaluated (s : Schema) (t : NamedType) : NamedType :=
  { t with shape := t.shape.mapInputs (·.evaluated s) }

@[simp] theorem NamedType.evaluated_name (t : NamedType) : (t.evaluated s).name = t.name := rfl

@[simp] theorem NamedType.evaluated_description (t : NamedType) :
    (t.evaluated s).description = t.description := rfl

@[simp] theorem NamedType.evaluated_shape (t : NamedType) :
    (t.evaluated s).shape = t.shape.mapInputs (·.evaluated s) := rfl

theorem TypeShape.Refers.evaluated {shape : TypeShape} (h : shape.Refers s') :
    (shape.mapInputs (·.evaluated s)).Refers s' where
  interfaces := by simpa using h.interfaces
  members := by simpa using h.members
  fields := by
    intro f hf
    rw [TypeShape.fields_mapInputs] at hf
    obtain ⟨g, hg, rfl⟩ := List.mem_map.mp hf
    exact h.fields g hg
  inputs := by
    intro v hv
    rw [TypeShape.inputs_mapInputs] at hv
    obtain ⟨w, hw, rfl⟩ := List.mem_map.mp hv
    exact (h.inputs w hw).evaluated

end Evaluated

/-- References stay good in a schema that has all types still, each of its kind. -/
theorem TypeShape.Refers.mono {s s' : Schema} {shape : TypeShape} (h : shape.Refers s)
    (hkind : ∀ n sh, s.shape? n = some sh → ∃ sh', s'.shape? n = some sh' ∧ sh.SameKind sh') :
    shape.Refers s' := by
  have hany : ∀ (p : TypeShape → Bool), (∀ a b, SameKind a b → p b = p a) → ∀ n,
      (s.shape? n).any p = true → (s'.shape? n).any p = true := by
    intro p hp n hn
    cases hs : s.shape? n with
    | none =>
      rw [hs] at hn
      cases hn
    | some sh =>
      rw [hs] at hn
      obtain ⟨sh', hs', hsame⟩ := hkind n sh hs
      rw [hs', Option.any_some, hp sh sh' hsame]
      exact hn
  exact {
    interfaces := fun n hn => hany _ (fun _ _ h => h.interface) n (h.interfaces n hn)
    members := fun n hn => hany _ (fun _ _ h => h.object) n (h.members n hn)
    fields := fun f hf => ⟨hany _ (fun _ _ h => h.output) _ (h.fields f hf).1, (h.fields f hf).2⟩
    inputs := fun v hv =>
      ⟨hany _ (fun _ _ h => h.input) _ (h.inputs v hv).type, (h.inputs v hv).deprecation⟩ }

end Subgraph
