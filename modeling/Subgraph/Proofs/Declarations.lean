import Subgraph.Proofs.Retransform
import Subgraph.Proofs.RootLines
import Subgraph.Proofs.Transforming

/-!
# What an SDL declares

The SDL is the text of the roots, the directives and the types that it declares. Which these are does
not depend on the configuration, which only adds directives to them. Definitions of the protocol are
left out, and so are the protocol fields of the query root, with the whole root where it has no other
fields.
-/

namespace Subgraph.Federation
open Text

section Types
variable (s : Schema) (t : NamedType)

/-- A type with the fields that are declared of it. -/
def declaredType : NamedType :=
  { t with shape := match t.shape with
    | .object is fs => .object is (declaredFields s t fs)
    | .interface is fs => .interface is (declaredFields s t fs)
    | shape => shape }

/-- A type is left out that has fields, none of which is declared. -/
def isLeftOut : Bool := (declaredFields s t t.shape.fields).isEmpty && !t.shape.fields.isEmpty

@[simp] theorem declaredType_name : (declaredType s t).name = t.name := rfl

theorem declaredFields_idem (fs : List Field) :
    declaredFields s (declaredType s t) (declaredFields s t fs) = declaredFields s t fs := by
  unfold declaredFields
  rw [declaredType_name]
  split
  · rw [List.filter_filter]
    simp only [Bool.and_self]
  · rfl

theorem fields_declaredType :
    (declaredType s t).shape.fields = declaredFields s t t.shape.fields := by
  have hnone : declaredFields s t [] = [] := by
    unfold declaredFields
    split <;> rfl
  unfold declaredType
  cases hs : t.shape <;> simp [TypeShape.fields, hnone]

/-- The declaration of a type is its outline with the declared fields. -/
theorem printType_declared (m : DirectiveMap) : printType s m t =
    if isLeftOut s t then none
    else some (((declaredType s t).outline s).fill fun c => printApplied (m.get c)) := by
  have houtline := (declaredType s t).outline_federated s m (by
    rw [fields_declaredType, declaredFields_idem])
  rw [← houtline, isLeftOut]
  obtain ⟨description, n, shape, applied⟩ := t
  have hcomposite : ∀ keyword is fs, printComposite s m keyword ⟨description, n, shape, applied⟩ is fs
      = if (declaredFields s ⟨description, n, shape, applied⟩ fs).isEmpty && !fs.isEmpty then none
        else printComposite s m keyword (declaredType s ⟨description, n, shape, applied⟩) is
          (declaredFields s ⟨description, n, shape, applied⟩ fs) := by
    intro keyword is fs
    simp only [printComposite, declaredFields_idem, Bool.and_not_self, Bool.false_eq_true, if_false]
    rfl
  cases shape with
  | object is fs => exact hcomposite "type" is fs
  | interface is fs => exact hcomposite "interface" is fs
  | _ =>
    simp only [TypeShape.fields, List.isEmpty_nil, Bool.not_true, Bool.and_false,
      Bool.false_eq_true, if_false]
    rfl

end Types

section Parts
variable (s : Schema)

def leftOutNames : List String := ((serviceTypes s).filter (isLeftOut s)).map (·.name)

def declaredTypes : List NamedType := ((serviceTypes s).filter (!isLeftOut s ·)).map (declaredType s)

theorem leftOut_eq (m : DirectiveMap) : leftOut s m = leftOutNames s := by
  have hsame : (fun t => (printType s m t).isNone) = isLeftOut s := by
    funext t
    rw [printType_declared]
    cases isLeftOut s t <;> rfl
  rw [leftOut, hsame]
  rfl

theorem printTypes_declared (m : DirectiveMap) : (serviceTypes s).filterMap (printType s m)
    = (declaredTypes s).map fun t => (t.outline s).fill fun c => printApplied (m.get c) := by
  rw [declaredTypes, List.map_map]
  induction serviceTypes s with
  | nil => rfl
  | cons t ts ih =>
    rw [List.filterMap_cons, List.filter_cons, printType_declared, ih]
    cases isLeftOut s t <;> rfl

/-- The operations that have a root, with its name. -/
def rootsOf : List (OperationKind × String) :=
  [OperationKind.query, .mutation, .subscription].filterMap fun k => (s.root k).map fun n => (k, n)

theorem mem_rootsOf {k : OperationKind} {n : String} : (k, n) ∈ rootsOf s ↔ s.root k = some n := by
  rw [rootsOf, List.mem_filterMap]
  constructor
  · rintro ⟨k', -, h⟩
    obtain ⟨n', hn, hpair⟩ := Option.map_eq_some_iff.mp h
    cases hpair
    exact hn
  · intro h
    exact ⟨k, by cases k <;> simp, by rw [h]; rfl⟩

def keptRoots : List (OperationKind × String) :=
  (rootsOf s).filter fun o => !(leftOutNames s).contains o.2

/-- The lines above the roots that stay: those of the description, and the one that opens. -/
def keptHead : List String :=
  (splitLines (definitionHead s.description)).filter (keepsLine (leftOutNames s))

/-- The roots of the schema definition, if there is one. It takes a description or a root of an
unusual name, and an indented line: that of a root, or one of the description. -/
def definedRoots : Option (List (OperationKind × String)) :=
  if s.description.isNone && s.hasDefaultRoots then none
  else if (keptRoots s).isEmpty && !(keptHead s).any isIndented then none
  else some (keptRoots s)

/-- The schema definition with some of the roots. -/
def definitionOf (roots : List (OperationKind × String)) : String :=
  joinLines (keptHead s ++ (if (rootsOf s).isEmpty then [""] else roots.map rootText) ++ ["\x7d"])

theorem rootLines_eq : s.rootLines = (rootsOf s).map rootText := by
  rw [Schema.rootLines, rootsOf, List.map_filterMap]
  refine filterMap_eq_of_mem fun k _ => ?_
  rw [Schema.printRoot, Option.map_map]
  rfl

theorem isIndented_rootText (o : OperationKind × String) : isIndented (rootText o) = true :=
  isIndented_iff.mpr ⟨o.1.name ++ (": " ++ o.2), by simp [rootText, String.append_assoc]⟩

theorem keepsLine_rootText (hnamed : s.RootsNamed) (left : List String)
    {o : OperationKind × String} (ho : o ∈ rootsOf s) :
    keepsLine left (rootText o) = !left.contains o.2 := by
  have hname := hnamed o.1 o.2 ((mem_rootsOf s).mp ho)
  have hlast : lastPart ": " (rootText o) = o.2 :=
    lastPart_rootLine o.1.name o.2 (not_mem_of_isNameChar hname (by decide))
  rw [keepsLine, isIndented_rootText, hlast, Bool.true_and]

theorem isIndented_brace : isIndented "\x7d" = false := by
  simpa [hasIndentedLine, splitLines_brace] using hasIndentedLine_brace

theorem isIndented_empty : isIndented "" = false := by
  by_contra h
  obtain ⟨rest, hrest⟩ := isIndented_iff.mp (Bool.not_eq_false _ |>.mp h)
  have hnil := congrArg String.toList hrest
  simp at hnil

section Lines
variable (left : List String)

theorem keptLines_eq (hnamed : s.RootsNamed) :
    (splitLines (Subgraph.definitionText s.description s.rootLines)).filter (keepsLine left)
      = (splitLines (definitionHead s.description)).filter (keepsLine left)
        ++ (if (rootsOf s).isEmpty then [""]
          else ((rootsOf s).filter fun o => !left.contains o.2).map rootText) ++ ["\x7d"] := by
  have hbrace : keepsLine left "\x7d" = true := by
    rw [keepsLine, isIndented_brace, Bool.false_and, Bool.not_false]
  have hempty : keepsLine left "" = true := by
    rw [keepsLine, isIndented_empty, Bool.false_and, Bool.not_false]
  cases hroots : (rootsOf s).isEmpty with
  | true =>
    have hlines : s.rootLines = [] := by
      rw [rootLines_eq, List.isEmpty_iff.mp hroots]
      rfl
    have hblank : splitLines ("\n".intercalate []) = [""] := by decide
    rw [hlines, definitionText_eq, splitLines_append_break, splitLines_append_break, hblank,
      splitLines_brace, List.filter_append, List.filter_append]
    simp [hbrace, hempty]
  | false =>
    have hne : s.rootLines ≠ [] := by
      rw [rootLines_eq]
      simpa using hroots
    have hfilter : ((rootsOf s).map rootText).filter (keepsLine left)
        = ((rootsOf s).filter fun o => !left.contains o.2).map rootText := by
      rw [List.filter_map]
      congr 1
      exact List.filter_congr fun o ho => keepsLine_rootText s hnamed _ ho
    rw [splitLines_definitionText hne hnamed.noBreak, List.filter_append, List.filter_append,
      rootLines_eq, hfilter]
    simp [hbrace]

/-- The schema definition without some types: it takes an indented line, that of a root that stays or
one of the description. -/
theorem printDefinition_lines (hnamed : s.RootsNamed) : printDefinition s left =
    if s.description.isNone && s.hasDefaultRoots then none
    else if ((rootsOf s).filter fun o => !left.contains o.2).isEmpty
        && !((splitLines (definitionHead s.description)).filter (keepsLine left)).any isIndented then none
    else some (joinLines ((splitLines (definitionHead s.description)).filter (keepsLine left)
      ++ (if (rootsOf s).isEmpty then [""]
        else ((rootsOf s).filter fun o => !left.contains o.2).map rootText) ++ ["\x7d"])) := by
  have hbind : ∀ d : String, ((some d).bind fun d =>
        let keep := (splitLines d).filter (keepsLine left)
        if keep.any isIndented then some (joinLines keep) else none)
      = if ((splitLines d).filter (keepsLine left)).any isIndented then
          some (joinLines ((splitLines d).filter (keepsLine left)))
        else none := fun _ => rfl
  have hany : ((if (rootsOf s).isEmpty then [""]
        else ((rootsOf s).filter fun o => !left.contains o.2).map rootText).any isIndented)
      = !((rootsOf s).filter fun o => !left.contains o.2).isEmpty := by
    cases hroots : (rootsOf s).isEmpty with
    | true =>
      rw [List.isEmpty_iff.mp hroots, if_pos rfl]
      simp [isIndented_empty]
    | false =>
      rw [if_neg Bool.false_ne_true]
      cases (rootsOf s).filter fun o => !left.contains o.2 with
      | nil => rfl
      | cons o os => simp [isIndented_rootText]
  rw [printDefinition, Schema.printDefinition_eq]
  split
  · rfl
  · refine (hbind _).trans ?_
    rw [keptLines_eq s left hnamed, List.any_append, List.any_append, hany, List.any_cons,
      isIndented_brace]
    cases ((rootsOf s).filter fun o => !left.contains o.2).isEmpty <;>
      cases ((splitLines (definitionHead s.description)).filter (keepsLine left)).any isIndented <;> rfl

end Lines

/-- The schema definition is the text of its roots, below the lines that stay above them. -/
theorem printDefinition_declared (hnamed : s.RootsNamed) :
    printDefinition s (leftOutNames s) = (definedRoots s).map (definitionOf s) := by
  rw [printDefinition_lines s _ hnamed, definedRoots, keptRoots, keptHead]
  split
  · rfl
  · split <;> rfl

end Parts

/-- What an SDL declares: the roots of the schema definition, if it has one, the directives and the
types. -/
structure Declarations where
  roots : Option (List (OperationKind × String))
  directives : List DirectiveType
  types : List NamedType

/-- What the SDL of a schema declares, whatever the configuration. -/
def declarations (s : Schema) : Declarations := ⟨definedRoots s, serviceDirectives s, declaredTypes s⟩

namespace Declarations

/-- The text of declarations, with directives at the types and their members. -/
def text (d : Declarations) (s : Schema) (m : DirectiveMap) : String :=
  let sdl := "\n\n".intercalate ((d.roots.map (definitionOf s)).toList
    ++ d.directives.map s.printDirective
    ++ d.types.map fun t => (t.outline s).fill fun c => printApplied (m.get c))
  if sdl = "" then "" else sdl ++ "\n"

/-- The names of types that declarations use. -/
def uses (d : Declarations) : List String :=
  (d.roots.getD []).map (·.2) ++ d.directives.flatMap (fun e => e.arguments.map (·.type.base))
    ++ d.types.flatMap Build.references

def typeNames (d : Declarations) : List String := d.types.map (·.name)

end Declarations

/-- The SDL is the text of its declarations. -/
theorem printSdl_declarations {s : Schema} (hnamed : s.RootsNamed) (c : Classification) :
    printSdl s c = (declarations s).text s (directiveMap s c) := by
  simp only [printSdl, definitions, leftOut_eq, printDefinition_declared s hnamed,
    printTypes_declared]
  rfl

section Declared
variable {s : Schema}

theorem isLeftOut_iff {t : NamedType} : isLeftOut s t = true ↔
    s.query = some t.name ∧ t.shape.fields ≠ [] ∧ ∀ f ∈ t.shape.fields, isFieldName f.name = true := by
  rw [isLeftOut, Bool.and_eq_true, List.isEmpty_iff, Bool.not_eq_true', List.isEmpty_eq_false_iff,
    declaredFields]
  split
  · next hq =>
    rw [List.filter_eq_nil_iff]
    simp only [Bool.not_eq_true', Bool.not_eq_false, hq, true_and]
    exact And.comm
  · next hq =>
    refine iff_of_false (fun h => h.2 h.1) fun h => hq h.1

/-- A query root that has protocol fields and no others. -/
def LeftOutRoot (s : Schema) (n : String) : Prop :=
  s.query = some n ∧ isBuiltinName n = false ∧ ∃ t, s.type? n = some t ∧ t.shape.fields ≠ []
    ∧ ∀ f ∈ t.shape.fields, isFieldName f.name = true

theorem mem_declaredTypes {u : NamedType} :
    u ∈ declaredTypes s ↔ ∃ t ∈ serviceTypes s, isLeftOut s t = false ∧ declaredType s t = u := by
  simp only [declaredTypes, List.mem_map, List.mem_filter, Bool.not_eq_true', and_assoc]

theorem mem_serviceNames {n : String} (h : n ∈ s.types.map (·.name))
    (hdefined : isBuiltinName n = false) (hplain : isTypeName n = false) :
    n ∈ (serviceTypes s).map (·.name) := by
  obtain ⟨t, ht, rfl⟩ := List.mem_map.mp h
  have hown : t.isDefined = true := by rw [NamedType.isDefined, hdefined]; rfl
  exact List.mem_map_of_mem (mem_serviceTypes.mpr ⟨ht, hown, hplain⟩)

/-- What belongs to the service is declared or left out. -/
theorem mem_typeNames (hnames : (s.types.map (·.name)).Nodup) {n : String} :
    n ∈ (declarations s).typeNames
      ↔ n ∈ (serviceTypes s).map (·.name) ∧ n ∉ leftOutNames s := by
  have hunique : ∀ t ∈ serviceTypes s, ∀ u ∈ serviceTypes s, t.name = u.name → t = u := by
    intro t ht u hu hname
    have htype := Schema.type?_of_mem hnames (List.mem_of_mem_filter ht)
    rw [hname, Schema.type?_of_mem hnames (List.mem_of_mem_filter hu)] at htype
    exact (Option.some.inj htype).symm
  rw [Declarations.typeNames, declarations, leftOutNames]
  constructor
  · intro h
    obtain ⟨u, hu, rfl⟩ := List.mem_map.mp h
    obtain ⟨t, ht, hkept, rfl⟩ := mem_declaredTypes.mp hu
    have hmem : t.name ∈ (serviceTypes s).map (·.name) := List.mem_map_of_mem ht
    refine ⟨hmem, fun hleft => ?_⟩
    obtain ⟨t', ht', hname⟩ := List.mem_map.mp hleft
    obtain ⟨ht', hleft⟩ := List.mem_filter.mp ht'
    rw [hunique t' ht' t ht hname, hkept] at hleft
    cases hleft
  · rintro ⟨hn, hkept⟩
    obtain ⟨t, ht, rfl⟩ := List.mem_map.mp hn
    refine List.mem_map.mpr ⟨declaredType s t, mem_declaredTypes.mpr ⟨t, ht, ?_, rfl⟩, rfl⟩
    rw [Bool.eq_false_iff]
    exact fun hleft => hkept (List.mem_map_of_mem (List.mem_filter.mpr ⟨ht, hleft⟩))

theorem leftOutRoot_of_mem (hnames : (s.types.map (·.name)).Nodup) {n : String}
    (h : n ∈ leftOutNames s) : LeftOutRoot s n := by
  obtain ⟨t, ht, rfl⟩ := List.mem_map.mp h
  obtain ⟨ht, hleft⟩ := List.mem_filter.mp ht
  obtain ⟨hq, hfields, hall⟩ := isLeftOut_iff.mp hleft
  obtain ⟨hmem, hdefined, -⟩ := mem_serviceTypes.mp ht
  refine ⟨hq, ?_, t, Schema.type?_of_mem hnames hmem, hfields, hall⟩
  simpa [NamedType.isDefined] using hdefined

theorem LeftOutRoot.mem_leftOutNames {n : String} (h : LeftOutRoot s n) (hplain : isTypeName n = false) :
    n ∈ leftOutNames s := by
  obtain ⟨hq, hdefined, t, ht, hfields, hall⟩ := h
  obtain ⟨hmem, rfl⟩ := Schema.mem_of_type? ht
  have hown : t.isDefined = true := by rw [NamedType.isDefined, hdefined]; rfl
  exact List.mem_map_of_mem (List.mem_filter.mpr
    ⟨mem_serviceTypes.mpr ⟨hmem, hown, hplain⟩, isLeftOut_iff.mpr ⟨hq, hfields, hall⟩⟩)

theorem mem_of_definedRoots {roots : List (OperationKind × String)}
    (h : definedRoots s = some roots) (o : OperationKind × String) :
    o ∈ roots ↔ o ∈ rootsOf s ∧ o.2 ∉ leftOutNames s := by
  unfold definedRoots at h
  split at h
  · cases h
  · split at h
    · cases h
    · cases h
      rw [keptRoots, List.mem_filter, Bool.not_eq_true', List.contains_eq_mem, decide_eq_false_iff_not]

end Declared

end Subgraph.Federation
