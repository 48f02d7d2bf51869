import Subgraph.Proofs.SourceDocument

/-!
# Schemas that can be written

Where the names, the types and the applied directives of a schema can be written, and its defaults are not
nested too deeply, the document of its SDL can be written, whatever the configuration adds to it.
-/

namespace Subgraph
open Token

/-- The name and the type of an argument or input field, and the directives that are applied to it, can be
written. -/
structure InputValue.IsLegible (v : InputValue) : Prop where
  name : isName v.name = true
  type : v.type.IsLegible
  directives : ∀ a ∈ v.applied, a.IsWritable

structure Field.IsLegible (f : Field) : Prop where
  name : isName f.name = true
  arguments : ∀ v ∈ f.arguments, v.IsLegible
  type : f.type.IsLegible
  directives : ∀ a ∈ f.applied, a.IsWritable

structure EnumValue.IsLegible (v : EnumValue) : Prop where
  name : isName v.name = true
  unreserved : v.name ∉ Parser.reservedWords
  directives : ∀ a ∈ v.applied, a.IsWritable

def TypeShape.IsLegible : TypeShape → Prop
  | .scalar _ => True
  | .object is fs => (∀ n ∈ is, isName n = true) ∧ ∀ f ∈ fs, f.IsLegible
  | .interface is fs => (∀ n ∈ is, isName n = true) ∧ ∀ f ∈ fs, f.IsLegible
  | .union ms => ∀ n ∈ ms, isName n = true
  | .enum vs => ∀ v ∈ vs, v.IsLegible
  | .input _ fs => ∀ v ∈ fs, v.IsLegible

structure NamedType.IsLegible (t : NamedType) : Prop where
  name : isName t.name = true
  shape : t.shape.IsLegible
  directives : ∀ a ∈ t.applied, a.IsWritable

structure DirectiveType.IsLegible (d : DirectiveType) : Prop where
  name : isName d.name = true
  arguments : ∀ v ∈ d.arguments, v.IsLegible
  some : d.locations ≠ []
  locations : ∀ n ∈ d.locations, n ∈ Parser.directiveLocations

namespace Federation

/-- What an SDL shows of a schema can be written. -/
structure IsLegible (s : Schema) : Prop where
  types : ∀ t ∈ serviceTypes s, t.IsLegible
  directives : ∀ d ∈ serviceDirectives s, d.IsLegible
  roots : ∀ o ∈ rootsOf s, isName o.2 = true

/-- The arguments and input fields that an SDL shows. -/
def shownInputs (s : Schema) : List InputValue :=
  (serviceDirectives s).flatMap (·.arguments) ++ (serviceTypes s).flatMap (·.shape.inputs)

/-- The defaults that an SDL shows can be written. -/
def HasLegibleDefaults (s : Schema) : Prop :=
  ∀ v ∈ shownInputs s, ∀ l, shownDefault s v = some l → l.IsWritable ∧ l.depth ≤ Document.deepestNesting

section Directives

theorem writable_textDirective {directive argument : String} (hd : isName directive = true)
    (ha : isName argument = true) (text : String) :
    (textDirective directive argument text false).IsWritable := by
  refine ⟨hd, fun a h => ?_⟩
  rw [List.mem_singleton.mp h]
  exact ⟨ha, nofun, Nat.zero_le _⟩

theorem writable_bare {n : String} (h : isName n = true) : (⟨(), n, []⟩ : Applied).IsWritable :=
  ⟨h, fun _ ha => absurd ha List.not_mem_nil⟩

theorem writable_deprecation (reason : Option String) : ∀ a ∈ deprecationApplied reason, a.IsWritable := by
  unfold deprecationApplied
  intro a ha
  split at ha
  · cases ha
  · split at ha
    · rw [List.mem_singleton.mp ha]
      exact writable_bare (by decide)
    · rw [List.mem_singleton.mp ha]
      exact writable_textDirective (by decide) (by decide) _

theorem writable_attributes (shape : TypeShape) : ∀ a ∈ shape.attributes, a.IsWritable := by
  intro a ha
  unfold TypeShape.attributes at ha
  split at ha
  · rw [List.mem_singleton.mp ha]
    exact writable_textDirective (by decide) (by decide) _
  · rw [List.mem_singleton.mp ha]
    exact writable_bare (by decide)
  · cases ha

theorem writable_settings (settings : TypeSettings) : ∀ a ∈ settings.directives, a.IsWritable := by
  intro a ha
  rcases List.mem_append.mp ha with ha | ha
  · obtain ⟨k, -, rfl⟩ := List.mem_map.mp ha
    show (textDirective keyDirective "fields" k.joined false).IsWritable
    exact writable_textDirective (by decide) (by decide) _
  · split at ha
    · rw [List.mem_singleton.mp ha]
      exact writable_bare (by decide)
    · cases ha

theorem writable_restored {ds : List Applied} (h : ∀ a ∈ ds, a.IsWritable) :
    ∀ a ∈ restored ds, a.IsWritable :=
  fun a ha => h a (mem_restored.mp ha).1

theorem writable_typeDirectives (c : Classification) {t : NamedType} (h : ∀ a ∈ t.applied, a.IsWritable) :
    ∀ a ∈ typeDirectives c t, a.IsWritable := by
  intro a ha
  unfold typeDirectives at ha
  split at ha
  · rcases List.mem_append.mp ha with ha | ha
    · exact writable_restored h a ha
    · exact writable_settings _ a (mem_of_mem_fresh ha)
  · exact writable_restored h a ha

end Directives

section Source
variable {s : Schema} (c : Classification) (hdefaults : HasLegibleDefaults s)

theorem mem_shownInputs {t : NamedType} (ht : t ∈ serviceTypes s) {v : InputValue} (hv : v ∈ t.shape.inputs) :
    v ∈ shownInputs s :=
  List.mem_append_right _ (List.mem_flatMap.mpr ⟨t, ht, hv⟩)

include hdefaults

theorem writable_inputSource {v : InputValue} (hv : v.IsLegible) (hshown : v ∈ shownInputs s)
    {told : List Applied} (htold : ∀ a ∈ told, a.IsWritable) : (inputSource s told v).IsWritable where
  name := hv.name
  type := hv.type
  default := hdefaults v hshown
  directives := List.forall_mem_append.mpr ⟨writable_deprecation _, htold⟩

theorem writable_arguments {vs : List InputValue} (hvs : ∀ v ∈ vs, v.IsLegible)
    (hshown : ∀ v ∈ vs, v ∈ shownInputs s) : ∀ a ∈ argumentSources s vs, a.IsWritable := by
  intro a ha
  obtain ⟨v, hv, rfl⟩ := List.mem_map.mp ha
  have hplain : (inputSource s [] v).IsWritable :=
    writable_inputSource hdefaults (hvs v hv) (hshown v hv) fun _ h => absurd h List.not_mem_nil
  split
  · exact ⟨hplain.name, hplain.type, hplain.default, hplain.directives⟩
  · exact hplain

theorem writable_fieldSource {f : Field} (hf : f.IsLegible) (hshown : ∀ v ∈ f.arguments, v ∈ shownInputs s) :
    (fieldSource s f).IsWritable where
  name := hf.name
  arguments := writable_arguments hdefaults hf.arguments hshown
  type := hf.type
  directives := List.forall_mem_append.mpr ⟨writable_deprecation _, writable_restored hf.directives⟩

omit hdefaults in
theorem writable_enumSource {v : EnumValue} (hv : v.IsLegible) : (enumSource v).IsWritable where
  name := hv.name
  unreserved := hv.unreserved
  directives := List.forall_mem_append.mpr ⟨writable_deprecation _, writable_restored hv.directives⟩

theorem writable_bodySource {shape : TypeShape} (h : shape.IsLegible)
    (hshown : ∀ v ∈ shape.inputs, v ∈ shownInputs s) : (bodySource s shape).IsWritable := by
  have hfields : ∀ fs : List Field, (∀ f ∈ fs, f.IsLegible) →
      (∀ v ∈ fs.flatMap (·.arguments), v ∈ shownInputs s) →
      ∀ f ∈ fs.map (fieldSource s), f.IsWritable := by
    intro fs hfs hinputs f hf
    obtain ⟨g, hg, rfl⟩ := List.mem_map.mp hf
    exact writable_fieldSource hdefaults (hfs g hg) fun v hv => hinputs v (List.mem_flatMap.mpr ⟨g, hg, hv⟩)
  cases shape with
  | scalar url => trivial
  | object is fs => exact ⟨h.1, hfields fs h.2 hshown⟩
  | interface is fs => exact ⟨h.1, hfields fs h.2 hshown⟩
  | union ms => exact h
  | enum vs =>
    intro w hw
    obtain ⟨v, hv, rfl⟩ := List.mem_map.mp hw
    exact writable_enumSource (h v hv)
  | input o fs =>
    intro w hw
    obtain ⟨v, hv, rfl⟩ := List.mem_map.mp hw
    exact writable_inputSource hdefaults (h v hv) (hshown v hv) (writable_restored (h v hv).directives)

theorem writable_source (h : IsLegible s) : ∀ d ∈ source s c, d.IsWritable := by
  intro d hd
  rcases List.mem_append.mp hd with hd | hd
  · rcases List.mem_append.mp hd with hd | hd
    · unfold schemaSource at hd
      split at hd
      · cases hd
      · next hroots =>
        rw [List.mem_singleton.mp hd]
        rw [Bool.or_eq_true, not_or] at hroots
        exact ⟨rfl, fun hnil => hroots.2 (List.isEmpty_iff.mpr hnil), h.roots⟩
    · obtain ⟨e, he, rfl⟩ := List.mem_map.mp hd
      have hlegible := h.directives e he
      refine ⟨hlegible.name, writable_arguments hdefaults hlegible.arguments fun v hv => ?_, hlegible.some,
        hlegible.locations⟩
      exact List.mem_append_left _ (List.mem_flatMap.mpr ⟨e, he, hv⟩)
  · obtain ⟨t, ht, rfl⟩ := List.mem_map.mp hd
    have hlegible := h.types t ht
    refine ⟨hlegible.name, List.forall_mem_append.mpr ⟨writable_attributes _,
      writable_typeDirectives c hlegible.directives⟩, ?_⟩
    exact writable_bodySource hdefaults hlegible.shape fun v hv => mem_shownInputs ht hv

end Source
end Federation
end Subgraph
