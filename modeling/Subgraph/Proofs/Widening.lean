import Subgraph.Proofs.GrownSdl
import Subgraph.Query.Collect
import Subgraph.Schema.Check

/-!
# Schemas that widen others

A schema widens another one when it has the types of that one with the values of their defaults, and
with further fields at some object types. It may have types besides, under names that the other one
does not have. What is said of a type, a field or an input by a name of the narrow schema is said by
the wide one as well.
-/

namespace Subgraph

namespace TypeShape

/-- A shape with the values of its defaults; an object type has further fields as well. -/
def widened (s : Schema) (extra : List Field) : TypeShape → TypeShape
  | .object is fs => .object is (fs.map (Field.evaluated s) ++ extra)
  | shape => shape.mapInputs (·.evaluated s)

section
variable (s : Schema) (extra : List Field) (shape : TypeShape)

@[simp] theorem isObject_widened : (shape.widened s extra).isObject = shape.isObject := by
  cases shape <;> rfl

@[simp] theorem isInterface_widened : (shape.widened s extra).isInterface = shape.isInterface := by
  cases shape <;> rfl

@[simp] theorem isUnion_widened : (shape.widened s extra).isUnion = shape.isUnion := by
  cases shape <;> rfl

@[simp] theorem isInput_widened : (shape.widened s extra).isInput = shape.isInput := by
  cases shape <;> rfl

@[simp] theorem isLeaf_widened : (shape.widened s extra).isLeaf = shape.isLeaf := by
  cases shape <;> rfl

@[simp] theorem isAbstract_widened : (shape.widened s extra).isAbstract = shape.isAbstract := by
  simp [isAbstract]

@[simp] theorem isComposite_widened : (shape.widened s extra).isComposite = shape.isComposite := by
  simp [isComposite]

@[simp] theorem interfaces_widened : (shape.widened s extra).interfaces = shape.interfaces := by
  cases shape <;> rfl

theorem widened_of_input (h : shape.isInput = true) :
    shape.widened s extra = shape.mapInputs (·.evaluated s) := by
  cases shape with
  | object is fs => cases h
  | _ => rfl

theorem fields_widened : (shape.widened s extra).fields
    = shape.fields.map (Field.evaluated s) ++ if shape.isObject then extra else [] := by
  cases shape with
  | object is fs => rfl
  | interface is fs => exact (List.append_nil _).symm
  | _ => rfl

end

/-- A test that does not look at fields and defaults. -/
def Blind (p : TypeShape → Bool) : Prop := ∀ s extra shape, p (widened s extra shape) = p shape

end TypeShape

namespace Field
variable {s : Schema}

@[simp] theorem evaluated_name (f : Field) : (f.evaluated s).name = f.name := rfl

@[simp] theorem evaluated_type (f : Field) : (f.evaluated s).type = f.type := rfl

@[simp] theorem evaluated_arguments (f : Field) :
    (f.evaluated s).arguments = f.arguments.map (·.evaluated s) := rfl

theorem argument?_evaluated (f : Field) (n : String) :
    (f.evaluated s).argument? n = (f.argument? n).map (·.evaluated s) := by
  rw [argument?, argument?, evaluated_arguments, List.find?_map]
  rfl

theorem evaluated_of_plain {f : Field} (h : ∀ v ∈ f.arguments, v.default? = none) :
    f.evaluated s = f := by
  have hsame : f.arguments.map (·.evaluated s) = f.arguments := by
    refine (List.map_congr_left fun v hv => ?_).trans (List.map_id _)
    have hv := h v hv
    obtain ⟨d, n, t, default?, dep, as⟩ := v
    simp only at hv
    subst hv
    rfl
  rw [evaluated, hsame]

end Field

namespace NamedType

/-- A type with the values of its defaults and further fields. -/
def widened (s : Schema) (extra : List Field) (t : NamedType) : NamedType :=
  { t with shape := t.shape.widened s extra }

variable (s : Schema) (extra : List Field) (t : NamedType)

@[simp] theorem widened_name : (t.widened s extra).name = t.name := rfl

@[simp] theorem widened_description : (t.widened s extra).description = t.description := rfl

@[simp] theorem widened_shape : (t.widened s extra).shape = t.shape.widened s extra := rfl

theorem field?_widened {n : String} (h : ∀ f ∈ extra, f.name ≠ n) :
    (t.widened s extra).field? n = (t.field? n).map (Field.evaluated s) := by
  have hextra : extra.find? (·.name == n) = none :=
    List.find?_eq_none.mpr fun f hf hname => h f hf (eq_of_beq hname)
  have hall : (t.widened s extra).field? n = ((t.field? n).map (Field.evaluated s)).or
      ((if t.shape.isObject then extra else []).find? (·.name == n)) := by
    rw [field?, widened_shape, TypeShape.fields_widened, List.find?_append, List.find?_map]
    rfl
  rw [hall]
  split
  · rw [hextra, Option.or_none]
  · rw [List.find?_nil, Option.or_none]

end NamedType

def DirectiveType.evaluated (s : Schema) (d : DirectiveType) : DirectiveType :=
  { d with arguments := d.arguments.map (·.evaluated s) }

/-- The schema `s'` has all types of `s`, widened by fields that `extra` gives to a type. The names
that are `shared` mean the same in both. -/
structure Schema.Widens (extra : NamedType → List Field) (shared : String → Prop) (s s' : Schema) :
    Prop where
  wellFormed : s.WellFormed
  own : ∀ t ∈ s.types, shared t.name
  standard : ∀ n ∈ standardNames, shared n
  standardType : ∀ t ∈ s.types, t.name ∈ standardNames → extra t = []
  type? : ∀ n, shared n → s'.type? n = (s.type? n).map fun t => t.widened s (extra t)
  possible : ∀ n, shared n → s'.possibleTypes n = s.possibleTypes n
  new : ∀ t ∈ s.types, ∀ f ∈ extra t, t.field? f.name = none ∧ f.name ≠ "__schema"
    ∧ f.name ≠ "__type" ∧ f.name ≠ "__typename"
  reserved : ∀ t ∈ s.types, ∀ f ∈ t.shape.fields, f.name ≠ "__schema" ∧ f.name ≠ "__type"
    ∧ f.name ≠ "__typename"
  root : ∀ k, s'.root k = s.root k
  description : s'.description = s.description
  /-- Of several directives of a name the last one counts in rules. -/
  rule : ∀ n d, s.directives.reverse.find? (·.name == n) = some d →
    s'.directives.reverse.find? (·.name == n) = some (d.evaluated s)
  directive? : ∀ n d, (s.directives.filter (·.name == n)).length ≤ 1 → s.directive? n = some d →
    s'.directive? n = some (d.evaluated s)

namespace Schema.Widens
variable {extra : NamedType → List Field} {shared : String → Prop} {s s' : Schema}
  (h : s.Widens extra shared s')
include h

theorem shared_of_mem {n : String} (hn : n ∈ s.types.map (·.name)) : shared n := by
  obtain ⟨t, ht, rfl⟩ := List.mem_map.mp hn
  exact h.own t ht

theorem shared_of_any {n : String} {p : TypeShape → Bool} (hn : (s.shape? n).any p = true) : shared n :=
  h.shared_of_mem (Schema.mem_names_of_any hn)

theorem shared_of_type? {n : String} {t : NamedType} (ht : s.type? n = some t) : shared n := by
  obtain ⟨hmem, rfl⟩ := Schema.mem_of_type? ht
  exact h.own t hmem

theorem type?_of_some {n : String} {t : NamedType} (ht : s.type? n = some t) :
    s'.type? n = some (t.widened s (extra t)) := by
  rw [h.type? n (h.shared_of_type? ht), ht, Option.map_some]

theorem shape? {n : String} (hn : shared n) :
    s'.shape? n = (s.type? n).map fun t => t.shape.widened s (extra t) := by
  rw [Schema.shape?, h.type? n hn, Option.map_map]
  rfl

theorem any {n : String} (hn : shared n) {p : TypeShape → Bool} (hp : TypeShape.Blind p) :
    (s'.shape? n).any p = (s.shape? n).any p := by
  rw [h.shape? hn, Schema.shape?]
  cases s.type? n with
  | none => rfl
  | some t => exact hp s (extra t) t.shape

theorem all {n : String} (hn : shared n) {p : TypeShape → Bool} (hp : TypeShape.Blind p) :
    (s'.shape? n).all p = (s.shape? n).all p := by
  rw [h.shape? hn, Schema.shape?]
  cases s.type? n with
  | none => rfl
  | some t => exact hp s (extra t) t.shape

theorem isSubType {a b : String} (ha : shared a) (hb : shared b) :
    s'.isSubType a b = s.isSubType a b := by
  have hinner : ((s'.shape? b).any fun shape => shape.interfaces.contains a)
      = (s.shape? b).any fun shape => shape.interfaces.contains a :=
    h.any hb fun _ _ shape => by rw [TypeShape.interfaces_widened]
  have houter : s.shape? a = (s.type? a).map (·.shape) := rfl
  rw [Schema.isSubType, Schema.isSubType, h.shape? ha, hinner, houter]
  cases s.type? a with
  | none => rfl
  | some t =>
    simp only [Option.map_some]
    cases t.shape <;> rfl

theorem isSubTypeOf : ∀ {t u : TypeRef}, shared t.base → shared u.base →
    t.isSubTypeOf s' u = t.isSubTypeOf s u
  | .nonNull a, .nonNull b, ht, hu => isSubTypeOf (t := a) (u := b) ht hu
  | .nonNull a, .list b, ht, hu => isSubTypeOf (t := a) (u := .list b) ht hu
  | .nonNull a, .named b, ht, hu => isSubTypeOf (t := a) (u := .named b) ht hu
  | .list a, .list b, ht, hu => isSubTypeOf (t := a) (u := b) ht hu
  | .named a, .named b, ht, hu => by
    have hsub : s'.isSubType b a = s.isSubType b a := h.isSubType hu ht
    rw [TypeRef.isSubTypeOf, TypeRef.isSubTypeOf, hsub]
  | .list _, .nonNull _, _, _ => rfl
  | .list _, .named _, _, _ => rfl
  | .named _, .nonNull _, _, _ => rfl
  | .named _, .list _, _, _ => rfl

theorem composite? {n : String} (hn : shared n) :
    s'.composite? n = (s.composite? n).map fun t => t.widened s (extra t) := by
  rw [Schema.composite?, Schema.composite?, h.type? n hn]
  cases s.type? n with
  | none => rfl
  | some t =>
    simp only [Option.map_some, Option.filter_some, NamedType.widened_shape,
      TypeShape.isComposite_widened]
    cases t.shape.isComposite <;> rfl

theorem evaluates : s.Evaluates s' where
  shape := by
    intro n hn
    rw [h.shape? (h.shared_of_any hn), Schema.shape?]
    cases ht : s.type? n with
    | none => rfl
    | some t =>
      rw [Schema.shape?, ht] at hn
      simp only [Option.map_some, TypeShape.widened_of_input s (extra t) t.shape hn]
  name := fun _ => rfl
  type := fun _ => rfl
  inside := by
    intro n o fs _ hs f hf
    obtain ⟨t, ht, rfl, hshape⟩ := Schema.mem_of_shape? hs
    refine ((h.wellFormed.refers t ht).inputs f ?_).type
    rw [hshape]
    exact hf

theorem inputType? {t : TypeRef} (ht : shared t.base) : s'.inputType? t = s.inputType? t := by
  rw [Schema.inputType?, Schema.inputType?, h.any ht TypeShape.isInput_widened]

theorem shared_input {v : InputValue} (hv : v.Fits s) : shared v.type.base :=
  h.shared_of_any hv.type

theorem shared_field {t : NamedType} (ht : t ∈ s.types) {f : Field} (hf : f ∈ t.shape.fields) :
    shared f.type.base ∧ ∀ v ∈ f.arguments, shared v.type.base := by
  have hrefers := h.wellFormed.refers t ht
  exact ⟨h.shared_of_any (hrefers.fields f hf).1,
    fun v hv => h.shared_input (hrefers.inputs v (TypeShape.mem_inputs hf hv))⟩

theorem shared_fieldOf? {t : NamedType} (ht : t ∈ s.types) {n : String} {f : Field}
    (hf : s.fieldOf? t n = some f) : shared f.type.base ∧ ∀ v ∈ f.arguments, shared v.type.base := by
  have hstandard : ∀ m, isBuiltinName m = true → shared m :=
    fun m hm => h.standard m (List.contains_iff_mem.mp hm)
  unfold Schema.fieldOf? at hf
  split at hf
  · cases hf
    exact ⟨hstandard "__Schema" rfl, by simp [Schema.schemaField]⟩
  split at hf
  · cases hf
    refine ⟨hstandard "__Type" rfl, fun v hv => ?_⟩
    rw [List.mem_singleton.mp hv]
    exact hstandard "String" rfl
  split at hf
  · cases hf
    exact ⟨hstandard "String" rfl, by simp [Schema.typenameField]⟩
  · exact h.shared_field ht (List.mem_of_find?_eq_some hf)

/-- A type has the fields that it had, and where a further field does not take the name it lacks
those that it lacked. -/
theorem fieldOf? {t : NamedType} {n : String} (hn : ∀ f ∈ extra t, f.name ≠ n) :
    s'.fieldOf? (t.widened s (extra t)) n = (s.fieldOf? t n).map (Field.evaluated s) := by
  have hquery : s'.query = s.query := h.root .query
  unfold Schema.fieldOf?
  rw [hquery, NamedType.widened_name, NamedType.widened_shape, TypeShape.isComposite_widened,
    NamedType.field?_widened s (extra t) t hn]
  split
  · exact congrArg some (Field.evaluated_of_plain (by simp [Schema.schemaField])).symm
  split
  · exact congrArg some (Field.evaluated_of_plain (by simp [Schema.typeField])).symm
  split
  · exact congrArg some (Field.evaluated_of_plain (by simp [Schema.typenameField])).symm
  · rfl

theorem not_extra {t : NamedType} (ht : t ∈ s.types) {n : String} {f : Field}
    (hf : s.fieldOf? t n = some f) : ∀ g ∈ extra t, g.name ≠ n := by
  intro g hg hname
  obtain ⟨hnone, hschema, htype, htypename⟩ := h.new t ht g hg
  subst hname
  rw [Schema.fieldOf?, if_neg fun h => hschema h.1, if_neg fun h => htype h.1,
    if_neg fun h => htypename h.1, hnone] at hf
  cases hf

theorem fieldOf?_of_some {t : NamedType} (ht : t ∈ s.types) {n : String} {f : Field}
    (hf : s.fieldOf? t n = some f) :
    s'.fieldOf? (t.widened s (extra t)) n = some (f.evaluated s) := by
  rw [h.fieldOf? (h.not_extra ht hf), hf, Option.map_some]

theorem fieldOf?_declared {t : NamedType} (ht : t ∈ s.types) {n : String} {f : Field}
    (hf : t.field? n = some f) : s.fieldOf? t n = some f := by
  have hname : (f.name == n) = true := List.find?_some (p := fun f : Field => f.name == n) hf
  obtain ⟨hschema, htype, htypename⟩ := h.reserved t ht f (List.mem_of_find?_eq_some hf)
  rw [eq_of_beq hname] at hschema htype htypename
  rw [Schema.fieldOf?, if_neg fun h => hschema h.1, if_neg fun h => htype h.1,
    if_neg fun h => htypename h.1, hf]

end Schema.Widens
end Subgraph
