import Subgraph.Proofs.AppliedDirectives
import Subgraph.Proofs.LegibleSources
import Subgraph.Proofs.SteadyValues

/-!
# What the document of an SDL makes

The types and directives that are made from the document of an SDL are those of the schema again, with the
directives that are shown of them and with defaults in their written form. They have the same references,
and the document of their own SDL is the same once more.
-/

namespace Subgraph.Federation
open Build

section Reading
variable {told : List Applied}

theorem find?_of_named {n : String} {ds : List Applied} (h : ∀ a ∈ ds, a.name ≠ n) :
    ds.find? (·.name == n) = none :=
  List.find?_eq_none.mpr fun a ha heq => h a ha (eq_of_beq heq)

theorem deprecation_shown (reason : Option String) (htold : ∀ a ∈ told, a.name ≠ "deprecated") :
    deprecation (deprecationApplied reason ++ told) = .ok reason := by
  have hnone := find?_of_named htold
  unfold deprecation
  cases reason with
  | none =>
    unfold textArgument
    rw [deprecationApplied, List.nil_append, hnone]
  | some r =>
    by_cases hr : r = Builtin.noReason
    · subst hr
      refine textArgument_default ?_
      rw [deprecationApplied, if_pos rfl]
      rfl
    · have hfind : (deprecationApplied (some r) ++ told).find? (·.name == "deprecated")
          = some (textDirective "deprecated" "reason" r false) := by
        rw [deprecationApplied, if_neg hr]
        rfl
      exact textArgument_text hfind

theorem specifiedBy_shown (url : Option String) (htold : ∀ a ∈ told, a.name ≠ "specifiedBy") :
    specifiedBy ((TypeShape.scalar url).attributes ++ told) = .ok url := by
  unfold specifiedBy
  cases url with
  | none =>
    unfold textArgument
    rw [TypeShape.attributes, List.nil_append, find?_of_named htold]
    · intro url h
      cases h
    · intro fs h
      cases h
  | some u =>
    have hfind : ((TypeShape.scalar (some u)).attributes ++ told).find? (·.name == "specifiedBy")
        = some (textDirective "specifiedBy" "url" u false) := rfl
    exact textArgument_text hfind

theorem isOneOf_shown (o : Bool) (fs : List InputValue) (htold : ∀ a ∈ told, a.name ≠ "oneOf") :
    isOneOf ((TypeShape.input o fs).attributes ++ told) = o := by
  have hnone : told.any (·.name == "oneOf") = false :=
    List.any_eq_false.mpr fun a ha heq => htold a ha (eq_of_beq heq)
  rw [isOneOf, List.any_append, hnone, Bool.or_false]
  cases o <;> rfl

theorem restored_ne {n : String} (hn : n ∈ printedNames) (ds : List Applied) :
    ∀ a ∈ restored ds, a.name ≠ n :=
  fun _ ha heq => (mem_restored.mp ha).2 (heq ▸ hn)

theorem restored_of_told (h : ∀ a ∈ told, a.name ∉ printedNames) : restored told = told := by
  rw [restored, List.filter_eq_self]
  exact fun a ha => by simpa using h a ha

theorem restored_restored (ds : List Applied) : restored (restored ds) = restored ds :=
  restored_of_told fun _ ha => (mem_restored.mp ha).2

theorem restored_deprecation (reason : Option String) : restored (deprecationApplied reason) = [] := by
  unfold deprecationApplied
  split
  · rfl
  · split <;> rfl

theorem restored_attributes (shape : TypeShape) : restored shape.attributes = [] := by
  unfold TypeShape.attributes
  split <;> rfl

theorem restored_append (ds es : List Applied) : restored (ds ++ es) = restored ds ++ restored es :=
  List.filter_append ..

end Reading

section Echo
variable (s : Schema)

/-- An argument or input field that is made from the definition of another one. -/
def echoInput (told : List Applied) (v : InputValue) : InputValue := inputValue (inputSource s told v)

def echoArguments (vs : List InputValue) : List InputValue := (argumentSources s vs).map inputValue

def echoField (f : Field) : Field := Build.field (fieldSource s f)

def echoValue (v : EnumValue) : EnumValue := Build.enumValue (enumSource v)

def echoShape : TypeShape → TypeShape
  | .scalar url => .scalar url
  | .object is fs => .object is (fs.map (echoField s))
  | .interface is fs => .interface is (fs.map (echoField s))
  | .union ms => .union ms
  | .enum vs => .enum (vs.map echoValue)
  | .input o fs => .input o (fs.map fun v => echoInput s (restored v.applied) v)

def echoType (c : Classification) (t : NamedType) : NamedType :=
  ⟨t.description, t.name, echoShape s t.shape, t.shape.attributes ++ typeDirectives c t⟩

def echoDirective (d : DirectiveType) : DirectiveType := Build.directiveType (directiveSource s d)

variable {s}

theorem echoInput_eq {told : List Applied} (htold : ∀ a ∈ told, a.name ≠ "deprecated") (v : InputValue) :
    echoInput s told v = ⟨v.description, v.name, v.type, (shownDefault s v).map .written, v.deprecation,
      deprecationApplied v.deprecation ++ told⟩ := by
  rw [echoInput, inputValue, inputSource, deprecation_shown v.deprecation htold]
  rfl

theorem echoField_eq (f : Field) :
    echoField s f = ⟨f.description, f.name, echoArguments s f.arguments, f.type,
    f.deprecation, deprecationApplied f.deprecation ++ restored f.applied⟩ := by
  rw [echoField, Build.field, fieldSource, deprecation_shown _ (restored_ne (by decide) _)]
  rfl

theorem echoValue_eq (v : EnumValue) : echoValue v = ⟨v.description, v.name, v.deprecation,
    deprecationApplied v.deprecation ++ restored v.applied⟩ := by
  rw [echoValue, Build.enumValue, enumSource, deprecation_shown _ (restored_ne (by decide) _)]
  rfl

theorem typeDirectives_ne {n : String} (hn : n ∈ printedNames) (c : Classification) (t : NamedType) :
    ∀ a ∈ typeDirectives c t, a.name ≠ n :=
  fun a ha heq => (typeDirectives_told t).2 a ha (heq ▸ hn)

theorem shape_typeSource (c : Classification) (t : NamedType) :
    Build.shape (typeSource s c t) = echoShape s t.shape := by
  unfold Build.shape typeSource
  cases hs : t.shape with
  | scalar url =>
    simp only [bodySource, echoShape]
    rw [specifiedBy_shown url (typeDirectives_ne (by decide) c t)]
    rfl
  | input o fs =>
    simp only [bodySource, echoShape, List.map_map]
    rw [isOneOf_shown o fs (typeDirectives_ne (by decide) c t)]
    rfl
  | object is fs =>
    simp only [bodySource, echoShape, List.map_map]
    rfl
  | interface is fs =>
    simp only [bodySource, echoShape, List.map_map]
    rfl
  | enum vs =>
    simp only [bodySource, echoShape, List.map_map]
    rfl
  | union ms => rfl

section References
variable {shape : TypeShape}

theorem readable_deprecation (reason : Option String) {told : List Applied}
    (htold : ∀ a ∈ told, a.name ≠ "deprecated") :
    HasReadableDeprecation (deprecationApplied reason ++ told) := by
  rw [HasReadableDeprecation, deprecation_shown reason htold]
  rfl

theorem fits_echoInput {s' : Schema} {told : List Applied} (htold : ∀ a ∈ told, a.name ≠ "deprecated")
    {v : InputValue} (h : v.Fits s') : (echoInput s told v).Fits s' := by
  rw [echoInput_eq htold]
  exact ⟨h.type, readable_deprecation _ htold⟩

theorem mem_echoArguments {vs : List InputValue} {w : InputValue} (hw : w ∈ echoArguments s vs) :
    ∃ v ∈ vs, ∃ description, w = echoInput s [] { v with description := description } := by
  obtain ⟨x, hx, rfl⟩ := List.mem_map.mp hw
  obtain ⟨v, hv, rfl⟩ := List.mem_map.mp hx
  split
  · exact ⟨v, hv, none, rfl⟩
  · exact ⟨v, hv, v.description, rfl⟩

theorem fits_echoArguments {s' : Schema} {vs : List InputValue} (h : ∀ v ∈ vs, v.Fits s') :
    ∀ w ∈ echoArguments s vs, w.Fits s' := by
  intro w hw
  obtain ⟨v, hv, description, rfl⟩ := mem_echoArguments hw
  exact fits_echoInput (fun _ ha => absurd ha List.not_mem_nil) ⟨(h v hv).type, (h v hv).deprecation⟩

theorem refers_echoShape {s' : Schema} (h : shape.Refers s') : (echoShape s shape).Refers s' := by
  have hfields : ∀ fs : List Field, (∀ f ∈ fs, (s'.shape? f.type.base).any TypeShape.isOutput = true
        ∧ HasReadableDeprecation f.applied) → ∀ f ∈ fs.map (echoField s),
      (s'.shape? f.type.base).any TypeShape.isOutput = true ∧ HasReadableDeprecation f.applied := by
    intro fs hfs f hf
    obtain ⟨g, hg, rfl⟩ := List.mem_map.mp hf
    rw [echoField_eq]
    exact ⟨(hfs g hg).1, readable_deprecation _ (restored_ne (by decide) _)⟩
  have hinputs : ∀ fs : List Field, (∀ v ∈ fs.flatMap (·.arguments), v.Fits s') →
      ∀ v ∈ (fs.map (echoField s)).flatMap (·.arguments), v.Fits s' := by
    intro fs hfs v hv
    obtain ⟨f, hf, hv⟩ := List.mem_flatMap.mp hv
    obtain ⟨g, hg, rfl⟩ := List.mem_map.mp hf
    rw [echoField_eq] at hv
    exact fits_echoArguments (fun w hw => hfs w (List.mem_flatMap.mpr ⟨g, hg, hw⟩)) v hv
  cases shape with
  | scalar url => exact ⟨h.interfaces, h.members, h.fields, h.inputs⟩
  | union ms => exact h
  | enum vs => exact ⟨h.interfaces, h.members, h.fields, h.inputs⟩
  | object is fs => exact ⟨h.interfaces, h.members, hfields fs h.fields, hinputs fs h.inputs⟩
  | interface is fs => exact ⟨h.interfaces, h.members, hfields fs h.fields, hinputs fs h.inputs⟩
  | input o fs =>
    refine ⟨h.interfaces, h.members, h.fields, fun v hv => ?_⟩
    obtain ⟨w, hw, rfl⟩ := List.mem_map.mp hv
    exact fits_echoInput (restored_ne (by decide) _) (h.inputs w hw)

theorem names_echoArguments (vs : List InputValue) : (echoArguments s vs).map (·.name) = vs.map (·.name) := by
  rw [echoArguments, argumentSources, List.map_map, List.map_map]
  refine List.map_congr_left fun v _ => ?_
  show (if areQuiet vs then { v with description := none } else v).name = v.name
  split <;> rfl

theorem distinct_echoShape (h : shape.Distinct) : (echoShape s shape).Distinct := by
  have hfields : ∀ fs : List Field, (fs.map (·.name)).Nodup ∧ (∀ f ∈ fs, (f.arguments.map (·.name)).Nodup) →
      ((fs.map (echoField s)).map (·.name)).Nodup
        ∧ ∀ f ∈ fs.map (echoField s), (f.arguments.map (·.name)).Nodup := by
    rintro fs ⟨hdistinct, harguments⟩
    refine ⟨by rw [List.map_map]; exact hdistinct, fun f hf => ?_⟩
    obtain ⟨g, hg, rfl⟩ := List.mem_map.mp hf
    rw [echoField_eq]
    simp only [names_echoArguments]
    exact harguments g hg
  cases shape with
  | object is fs => exact hfields fs h
  | interface is fs => exact hfields fs h
  | enum vs =>
    show ((vs.map echoValue).map (·.name)).Nodup
    rw [List.map_map]
    exact h
  | input o fs =>
    show ((fs.map fun v => echoInput s (restored v.applied) v).map (·.name)).Nodup
    rw [List.map_map]
    exact h
  | _ => trivial

theorem kind_echoShape (shape : TypeShape) : shape.SameKind (echoShape s shape) := by
  cases shape <;> exact ⟨rfl, rfl, rfl, rfl, rfl⟩

theorem echoes_echoShape (h : shape.isInput = true) : shape.Echoes s (echoShape s shape) := by
  cases shape with
  | scalar url => exact .scalar url url
  | enum vs => exact .enum (by rw [List.map_map]; rfl)
  | input o fs =>
    refine .input (fun _ => rfl) (fun _ => rfl) fun f _ hnone => ?_
    rw [echoInput_eq (restored_ne (by decide) _)]
    simp [shownDefault, hnone]
  | _ => cases h

end References

section Again
variable {s' : Schema}

/-- The literals that the defaults of a schema are shown as are stable for another one. -/
def HasStableDefaults (s s' : Schema) : Prop :=
  ∀ v ∈ shownInputs s, ∀ l, shownDefault s v = some l → l.IsStable s' v.type

theorem shownDefault_again {v w : InputValue} (h : ∀ l, shownDefault s v = some l → l.IsStable s' v.type)
    (htype : w.type = v.type) (hdefault : w.default? = (shownDefault s v).map .written) :
    shownDefault s' w = shownDefault s v ∧ s'.unwritableDefault? w = none := by
  cases hl : shownDefault s v with
  | none =>
    rw [hl] at hdefault
    have hnone : w.default s' = none := by rw [InputValue.default, hdefault]; rfl
    exact ⟨by rw [shownDefault, hnone]; rfl, by rw [Schema.unwritableDefault?, hnone]; rfl⟩
  | some l =>
    rw [hl] at hdefault
    have hstable := h l hl
    have hsome : w.default s' = some (l.meaning s' v.type) := by
      rw [InputValue.default, hdefault, htype]
      exact hstable.read _
    rw [shownDefault, Schema.unwritableDefault?, hsome, Option.bind_some, Option.bind_some, htype]
    exact ⟨hstable.written, hstable.writable⟩

theorem inputSource_again {told : List Applied} (htold : ∀ a ∈ told, a.name ≠ "deprecated") {v : InputValue}
    (h : ∀ l, shownDefault s v = some l → l.IsStable s' v.type) :
    inputSource s' told (echoInput s told v) = inputSource s told v
      ∧ s'.unwritableDefault? (echoInput s told v) = none := by
  have hecho := echoInput_eq (s := s) htold v
  have hdefault := shownDefault_again (w := echoInput s told v) h (by rw [hecho]) (by rw [hecho])
  refine ⟨?_, hdefault.2⟩
  rw [inputSource, hdefault.1, hecho]
  rfl

theorem areQuiet_again (vs : List InputValue) : areQuiet (echoArguments s vs) = areQuiet vs := by
  rw [areQuiet, echoArguments, argumentSources, List.map_map, List.all_map]
  cases hquiet : areQuiet vs with
  | true =>
    simp only [if_true, List.all_eq_true]
    exact fun _ _ => rfl
  | false =>
    simp only [Bool.false_eq_true, if_false]
    exact hquiet

theorem arguments_again {vs : List InputValue}
    (h : ∀ v ∈ vs, ∀ l, shownDefault s v = some l → l.IsStable s' v.type) :
    argumentSources s' (echoArguments s vs) = argumentSources s vs
      ∧ ∀ w ∈ echoArguments s vs, s'.unwritableDefault? w = none := by
  have hnone : ∀ a ∈ ([] : List Applied), a.name ≠ "deprecated" := fun _ ha => absurd ha List.not_mem_nil
  constructor
  · have hmap : argumentSources s' (echoArguments s vs) = vs.map fun v =>
        inputSource s' [] (if areQuiet vs then
          { echoInput s [] (if areQuiet vs then { v with description := none } else v) with
            description := none }
          else echoInput s [] (if areQuiet vs then { v with description := none } else v)) := by
      rw [argumentSources, areQuiet_again, echoArguments, argumentSources, List.map_map, List.map_map]
      rfl
    rw [hmap, argumentSources]
    refine List.map_congr_left fun v hv => ?_
    cases areQuiet vs with
    | true =>
      exact (inputSource_again (v := { v with description := none }) hnone (h v hv)).1
    | false => exact (inputSource_again hnone (h v hv)).1
  · intro w hw
    obtain ⟨v, hv, description, rfl⟩ := mem_echoArguments hw
    exact (inputSource_again (v := { v with description := description }) hnone (h v hv)).2

theorem fieldSource_again {f : Field}
    (h : ∀ v ∈ f.arguments, ∀ l, shownDefault s v = some l → l.IsStable s' v.type) :
    fieldSource s' (echoField s f) = fieldSource s f := by
  rw [echoField_eq, fieldSource, (arguments_again h).1, restored_append, restored_deprecation,
    restored_restored]
  rfl

theorem enumSource_again (v : EnumValue) : enumSource (echoValue v) = enumSource v := by
  rw [echoValue_eq, enumSource, restored_append, restored_deprecation, restored_restored]
  rfl

theorem bodySource_again {shape : TypeShape}
    (h : ∀ v ∈ shape.inputs, ∀ l, shownDefault s v = some l → l.IsStable s' v.type) :
    bodySource s' (echoShape s shape) = bodySource s shape := by
  have hfields : ∀ fs : List Field,
      (∀ v ∈ fs.flatMap (·.arguments), ∀ l, shownDefault s v = some l → l.IsStable s' v.type) →
      (fs.map (echoField s)).map (fieldSource s') = fs.map (fieldSource s) := by
    intro fs hfs
    rw [List.map_map]
    exact List.map_congr_left fun f hf => fieldSource_again fun v hv =>
      hfs v (List.mem_flatMap.mpr ⟨f, hf, hv⟩)
  cases shape with
  | scalar url => rfl
  | union ms => rfl
  | object is fs => exact congrArg _ (hfields fs h)
  | interface is fs => exact congrArg _ (hfields fs h)
  | enum vs =>
    refine congrArg TypeBody.enum ?_
    rw [List.map_map]
    exact List.map_congr_left fun v _ => enumSource_again v
  | input o fs =>
    refine congrArg TypeBody.input ?_
    rw [List.map_map]
    refine List.map_congr_left fun v hv => ?_
    have hne := restored_ne (n := "deprecated") (by decide) v.applied
    have happlied : restored (echoInput s (restored v.applied) v).applied = restored v.applied := by
      rw [echoInput_eq hne, restored_append, restored_deprecation, restored_restored, List.nil_append]
    rw [Function.comp_apply, happlied]
    exact (inputSource_again hne (h v hv)).1

theorem writable_again {shape : TypeShape}
    (h : ∀ v ∈ shape.inputs, ∀ l, shownDefault s v = some l → l.IsStable s' v.type) :
    ∀ w ∈ (echoShape s shape).inputs, s'.unwritableDefault? w = none := by
  have hfields : ∀ fs : List Field,
      (∀ v ∈ fs.flatMap (·.arguments), ∀ l, shownDefault s v = some l → l.IsStable s' v.type) →
      ∀ w ∈ (fs.map (echoField s)).flatMap (·.arguments), s'.unwritableDefault? w = none := by
    intro fs hfs w hw
    obtain ⟨f, hf, hw⟩ := List.mem_flatMap.mp hw
    obtain ⟨g, hg, rfl⟩ := List.mem_map.mp hf
    rw [echoField_eq] at hw
    exact (arguments_again fun v hv => hfs v (List.mem_flatMap.mpr ⟨g, hg, hv⟩)).2 w hw
  intro w hw
  cases shape with
  | scalar url => cases hw
  | union ms => cases hw
  | enum vs => cases hw
  | object is fs => exact hfields fs h w hw
  | interface is fs => exact hfields fs h w hw
  | input o fs =>
    obtain ⟨v, hv, rfl⟩ := List.mem_map.mp hw
    exact (inputSource_again (restored_ne (by decide) _) (h v hv)).2

theorem attributes_echoShape (shape : TypeShape) : (echoShape s shape).attributes = shape.attributes := by
  cases shape with
  | scalar url => cases url <;> rfl
  | input o fs => cases o <;> rfl
  | _ => rfl

theorem typeDirectives_again (c : Classification) (t : NamedType) :
    typeDirectives ⟨[]⟩ (echoType s c t) = typeDirectives c t := by
  have htold := restored_of_told (typeDirectives_told (c := c) t).2
  show restored (t.shape.attributes ++ typeDirectives c t) = _
  rw [restored_append, restored_attributes, htold, List.nil_append]

theorem typeSource_again (c : Classification) {t : NamedType}
    (h : ∀ v ∈ t.shape.inputs, ∀ l, shownDefault s v = some l → l.IsStable s' v.type) :
    typeSource s' ⟨[]⟩ (echoType s c t) = typeSource s c t := by
  rw [typeSource, typeDirectives_again, typeSource]
  show (⟨(), t.name, (echoShape s t.shape).attributes ++ _, bodySource s' (echoShape s t.shape)⟩ :
    TypeDefinition Unit)
    = _
  rw [attributes_echoShape, bodySource_again h]

theorem echoDirective_eq {d : DirectiveType} (hd : (d.arguments.map (·.name)).Nodup) :
    echoDirective s d = { d with arguments := echoArguments s d.arguments } := by
  have hnodup : (((argumentSources s d.arguments).map inputValue).map (·.name)).Nodup := by
    have hnames := names_echoArguments (s := s) d.arguments
    rw [echoArguments] at hnames
    rw [hnames]
    exact hd
  rw [echoDirective, Build.directiveType, directiveSource, lastByName_of_nodup hnodup]
  rfl

theorem directiveSource_again {d : DirectiveType} (hd : (d.arguments.map (·.name)).Nodup)
    (h : ∀ v ∈ d.arguments, ∀ l, shownDefault s v = some l → l.IsStable s' v.type) :
    directiveSource s' (echoDirective s d) = directiveSource s d := by
  rw [echoDirective_eq hd, directiveSource, (arguments_again h).1]
  rfl

/-- The directives that are told to the declaration of a type and of its members are those that they had. -/
theorem typeEntries_again (c : Classification) (t : NamedType) :
    typeEntries ⟨[]⟩ (echoType s c t) = typeEntries c t := by
  have hmembers : (memberApplications (echoShape s t.shape)).map (fun m => (m.1, restored m.2))
      = (memberApplications t.shape).map fun m => (m.1, restored m.2) := by
    have hrestored : ∀ (reason : Option String) (ds : List Applied),
        restored (deprecationApplied reason ++ restored ds) = restored ds := fun reason ds => by
      rw [restored_append, restored_deprecation, restored_restored, List.nil_append]
    cases t.shape with
    | object is fs => simp [echoShape, memberApplications, echoField_eq, hrestored]
    | interface is fs => simp [echoShape, memberApplications, echoField_eq, hrestored]
    | enum vs => simp [echoShape, memberApplications, echoValue_eq, hrestored]
    | input o fs =>
      simp [echoShape, memberApplications, echoInput_eq (restored_ne (n := "deprecated") (by decide) _),
        hrestored]
    | _ => rfl
  have hentries := congrArg
    (List.map fun m : String × List Applied => ((⟨t.name, some m.1⟩ : Coordinate), m.2)) hmembers
  rw [List.map_map, List.map_map] at hentries
  unfold typeEntries
  rw [typeDirectives_again]
  exact congrArg (fun es => ((⟨t.name, none⟩, typeDirectives c t) :: es).filter fun e =>
    !e.2.isEmpty) hentries

end Again

end Echo
end Subgraph.Federation
