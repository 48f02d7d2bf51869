import Subgraph.Proofs.EntityDeclarations
import Subgraph.Proofs.SourceDirectives

/-!
# What becomes of the directives of a document

The directives that a document applies to a type or to a member of a type come back in the declaration
of it. Those of three names are not told to the declaration, which is to show them without being told:
it does so from the attributes of the type and of its members. These attributes do not know of the
extensions of a type, nor of a deprecation whose reason is no text, and directives of this sort are
dropped; all others are shown with the arguments that they were given.
-/

namespace Subgraph.Federation
open Build

/-- The directive that stands for a deprecation. -/
def deprecationApplied : Option String → List Applied
  | none => []
  | some reason =>
    if reason = Builtin.noReason then [⟨(), "deprecated", []⟩]
    else [textDirective "deprecated" "reason" reason false]

section Text

theorem printApplied_append (ds es : List Applied) :
    printApplied (ds ++ es) = printApplied ds ++ printApplied es := by
  rw [printApplied, List.map_append, String.join_append]
  rfl

theorem printApplied_nil : printApplied [] = "" := by
  simp [printApplied]

theorem printApplied_singleton (d : Applied) : printApplied [d] = " " ++ d.print := by
  simp [printApplied]

theorem print_textDirective (name argument text : String) :
    (textDirective name argument text false).print
      = "@" ++ name ++ "(" ++ argument ++ ": " ++ Text.quote text ++ ")" := by
  simp [textDirective, Directive.print, Argument.print, Literal.print, String.append_assoc]

theorem printDeprecation_eq (reason : Option String) :
    printDeprecation reason = printApplied (deprecationApplied reason) := by
  unfold printDeprecation deprecationApplied
  cases reason with
  | none => exact printApplied_nil.symm
  | some r =>
    simp only
    split
    · have hbare : " @deprecated" = " " ++ ("@" ++ "deprecated" ++ "") := by decide
      rw [printApplied_singleton, hbare, Directive.print, List.isEmpty_nil, if_pos rfl]
    · have hopen : " @deprecated(reason: " = " " ++ ("@" ++ "deprecated" ++ "(" ++ "reason" ++ ": ") := by
        decide
      rw [printApplied_singleton, print_textDirective, hopen]
      simp only [String.append_assoc]

theorem printSpecifiedBy_eq (url : Option String) :
    printSpecifiedBy url = printApplied (TypeShape.scalar url).attributes := by
  cases url with
  | none => exact printApplied_nil.symm
  | some u =>
    have hopen : " @specifiedBy(url: " = " " ++ ("@" ++ "specifiedBy" ++ "(" ++ "url" ++ ": ") := by
      decide
    unfold printSpecifiedBy TypeShape.attributes
    simp only [printApplied_singleton, print_textDirective]
    rw [hopen]
    simp only [String.append_assoc]

theorem printOneOf_eq (oneOf : Bool) (fs : List InputValue) :
    (if oneOf then " @oneOf" else "") = printApplied (TypeShape.input oneOf fs).attributes := by
  cases oneOf with
  | false => exact printApplied_nil.symm
  | true =>
    have hbare : " @oneOf" = " " ++ ("@" ++ "oneOf" ++ "") := by decide
    rw [if_pos rfl, TypeShape.attributes, printApplied_singleton, hbare, Directive.print,
      List.isEmpty_nil, if_pos rfl]

theorem printItems_map {α β : Type} (item : Bool → β → String) (g : α → β) (xs : List α) :
    printItems item (xs.map g) = printItems (fun first x => item first (g x)) xs :=
  printItems_map_congr fun _ _ _ => rfl

end Text

/-- A member as it is declared: the text up to its directives, and what these come from. -/
structure Member where
  row : MemberRow
  text : Bool → String

section Declared
variable (s : Schema) (m : DirectiveMap) (t : NamedType)

def fieldMember (f : Field) : Member where
  row := (f.name, f.deprecation, f.applied)
  text := fun first => printDescription f.description "  " first ++ "  " ++ f.name
    ++ s.printArguments "  " f.arguments ++ ": " ++ f.type.text

def enumMember (v : EnumValue) : Member where
  row := (v.name, v.deprecation, v.applied)
  text := fun first => printDescription v.description "  " first ++ "  " ++ v.name

def inputMember (v : InputValue) : Member where
  row := (v.name, v.deprecation, v.applied)
  text := fun first => printDescription v.description "  " first ++ "  " ++ v.name ++ ": "
    ++ v.type.text ++ s.printDefault v

def declaredMembers : List Member :=
  match t.shape with
  | .object _ fs => (declaredFields s t fs).map (fieldMember s)
  | .interface _ fs => (declaredFields s t fs).map (fieldMember s)
  | .enum vs => vs.map enumMember
  | .input _ fs => fs.map (inputMember s)
  | _ => []

/-- The directives in the declaration of a type. -/
def shownAtType : List Applied := t.shape.attributes ++ m.get ⟨t.name, none⟩

/-- The directives in the declaration of a member. -/
def shownAtMember (r : MemberRow) : List Applied :=
  deprecationApplied r.2.1 ++ m.get ⟨t.name, some r.1⟩

def printMember (first : Bool) (x : Member) : String :=
  x.text first ++ printApplied (shownAtMember m t x.row)

def keyword : TypeShape → String
  | .scalar _ => "scalar"
  | .object .. => "type"
  | .interface .. => "interface"
  | .union _ => "union"
  | .enum _ => "enum"
  | .input .. => "input"

def startText : String :=
  printDescription t.description "" true ++ keyword t.shape ++ " " ++ t.name
    ++ printInterfaces t.shape.interfaces

def unionText : TypeShape → String
  | .union ms => if ms.isEmpty then "" else " = " ++ " | ".intercalate ms
  | _ => ""

/-- The declaration of a type: its text, its directives, and its members with theirs. -/
def declarationText : String :=
  startText t ++ printApplied (shownAtType m t) ++ unionText t.shape
    ++ printBlock (printItems (printMember m t) (declaredMembers s t))

theorem printField_eq : printField s m t = fun first f => printMember m t first (fieldMember s f) := by
  funext first f
  simp only [printField, printMember, fieldMember, shownAtMember, printApplied_append,
    printDeprecation_eq, printMemberDirectives, String.append_assoc]

theorem printEnumValue_eq : printEnumValue m t = fun first v => printMember m t first (enumMember v) := by
  funext first v
  simp only [printEnumValue, printMember, enumMember, shownAtMember, printApplied_append,
    printDeprecation_eq, printMemberDirectives, String.append_assoc]

theorem printInputField_eq :
    printInputField s m t = fun first v => printMember m t first (inputMember s v) := by
  funext first v
  simp only [printInputField, Schema.printInputValue, printMember, inputMember, shownAtMember,
    printApplied_append, printDeprecation_eq, printMemberDirectives, String.append_assoc]

/-- Where a type is declared, its declaration has the directives after its text and those of each member
after the text of the member. -/
theorem printType_eq {decl : String} (h : printType s m t = some decl) :
    decl = declarationText s m t := by
  have hnone : ∀ text : String, text ++ printBlock (printItems (printMember m t) []) = text := fun text =>
    String.append_empty
  have hcomposite : ∀ keyword is fs, printComposite s m keyword t is fs = some decl →
      decl = printDescription t.description "" true ++ keyword ++ " " ++ t.name
        ++ printInterfaces is ++ printTypeDirectives m t
        ++ printBlock (printItems (printMember m t) ((declaredFields s t fs).map (fieldMember s))) := by
    intro keyword is fs hprint
    simp only [printComposite] at hprint
    split at hprint
    · cases hprint
    · rw [printItems_map, ← printField_eq]
      exact (Option.some.inj hprint).symm
  have hplain : ∀ shape : TypeShape, shape.attributes = [] → t.shape = shape →
      printApplied (shownAtType m t) = printTypeDirectives m t := by
    intro shape hattributes hs
    rw [shownAtType, hs, hattributes, List.nil_append, printTypeDirectives]
  unfold printType at h
  unfold declarationText declaredMembers startText
  cases hs : t.shape with
  | object is fs =>
    rw [hs] at h
    rw [hplain _ rfl hs]
    simpa only [keyword, unionText, TypeShape.interfaces, String.append_empty] using hcomposite "type" is fs h
  | interface is fs =>
    rw [hs] at h
    rw [hplain _ rfl hs]
    simpa only [keyword, unionText, TypeShape.interfaces, String.append_empty]
      using hcomposite "interface" is fs h
  | scalar url =>
    rw [hs] at h
    have hopen : "scalar " = "scalar" ++ " " := by decide
    rw [hnone, ← Option.some.inj h, shownAtType, hs, printApplied_append, ← printSpecifiedBy_eq, hopen]
    simp [keyword, unionText, TypeShape.interfaces, printInterfaces, printTypeDirectives,
      String.append_assoc]
  | union ms =>
    rw [hs] at h
    have hopen : "union " = "union" ++ " " := by decide
    rw [hnone, ← Option.some.inj h, hplain _ rfl hs, hopen]
    simp [keyword, unionText, TypeShape.interfaces, printInterfaces, String.append_assoc]
  | enum vs =>
    rw [hs] at h
    have hopen : "enum " = "enum" ++ " " := by decide
    rw [← Option.some.inj h, hplain _ rfl hs, hopen, printItems_map, ← printEnumValue_eq]
    simp [keyword, unionText, TypeShape.interfaces, printInterfaces, String.append_assoc]
  | input o fs =>
    rw [hs] at h
    have hopen : "input " = "input" ++ " " := by decide
    rw [← Option.some.inj h, shownAtType, hs, printApplied_append, ← printOneOf_eq, hopen,
      printItems_map, ← printInputField_eq]
    simp [keyword, unionText, TypeShape.interfaces, printInterfaces, printTypeDirectives,
      String.append_assoc]

end Declared

section Told
variable {s : Schema} {c : Classification} {t : NamedType}

theorem mem_restored {a : Applied} {ds : List Applied} :
    a ∈ restored ds ↔ a ∈ ds ∧ a.name ∉ printedNames := by
  rw [restored, List.mem_filter]
  simp

theorem mem_of_mem_fresh {a : Applied} {ds : List Applied} {seen : List String}
    (h : a ∈ fresh seen ds) : a ∈ ds := by
  induction ds generalizing seen with
  | nil => exact h
  | cons d ds ih =>
    unfold fresh at h
    split at h
    · exact List.mem_cons_of_mem d (ih h)
    · rcases List.mem_cons.mp h with rfl | h
      · exact List.mem_cons_self
      · exact List.mem_cons_of_mem d (ih h)

theorem settings_name {settings : TypeSettings} {a : Applied} (h : a ∈ settings.directives) :
    a.name ∉ printedNames := by
  have hkey : keyDirective ∉ printedNames := by decide
  have hextends : extendsDirective ∉ printedNames := by decide
  rcases List.mem_append.mp h with h | h
  · obtain ⟨k, -, rfl⟩ := List.mem_map.mp h
    exact hkey
  · split at h
    · rw [List.mem_singleton.mp h]
      exact hextends
    · cases h

/-- A type is told all directives of its own and none of those that it shows without being told. -/
theorem typeDirectives_told (t : NamedType) :
    (restored t.applied).Sublist (typeDirectives c t)
      ∧ ∀ a ∈ typeDirectives c t, a.name ∉ printedNames := by
  unfold typeDirectives
  split
  · refine ⟨List.sublist_append_left _ _, fun a ha => ?_⟩
    rcases List.mem_append.mp ha with ha | ha
    · exact (mem_restored.mp ha).2
    · exact settings_name (mem_of_mem_fresh ha)
  · exact ⟨List.Sublist.refl _, fun a ha => (mem_restored.mp ha).2⟩

theorem directiveMap_type (hnames : (s.types.map (·.name)).Nodup) (ht : t ∈ serviceTypes s) :
    (directiveMap s c).get ⟨t.name, none⟩ = typeDirectives c t :=
  (directiveMap_get hnames ht none).trans (typeEntries_lookup t)

theorem lookup_nonempty {es : DirectiveMap} (hkeys : (es.map (·.1)).Nodup)
    {k : Coordinate} {ds : List Applied} (h : (k, ds) ∈ es) :
    ((es.filter fun e => !e.2.isEmpty).lookup k).getD [] = ds := by
  induction es with
  | nil => cases h
  | cons e es ih =>
    rw [List.map_cons, List.nodup_cons] at hkeys
    rcases List.mem_cons.mp h with rfl | hmem
    · cases ds with
      | nil =>
        have hnone : (es.filter fun e => !e.2.isEmpty).lookup k = none := by
          refine List.lookup_eq_none_iff.mpr fun e he => bne_iff_ne.mpr fun heq => hkeys.1 ?_
          exact List.mem_map.mpr ⟨e, List.mem_of_mem_filter he, heq.symm⟩
        rw [List.filter_cons_of_neg (by simp), hnone]
        rfl
      | cons d ds => simp
    · have hne : (k == e.1) = false := beq_eq_false_iff_ne.mpr fun heq =>
        hkeys.1 (heq ▸ List.mem_map_of_mem hmem)
      rw [List.filter_cons]
      split
      · obtain ⟨k', ds'⟩ := e
        rw [List.lookup_cons, hne]
        exact ih hkeys.2 hmem
      · exact ih hkeys.2 hmem

theorem memberApplications_rows (shape : TypeShape) :
    memberApplications shape = shape.rows.map fun r => (r.1, r.2.2) := by
  cases shape <;> simp [memberApplications, TypeShape.rows]

theorem directiveMap_member (hnames : (s.types.map (·.name)).Nodup) (ht : t ∈ serviceTypes s)
    (hrows : (t.shape.rows.map (·.1)).Nodup) {r : MemberRow} (hr : r ∈ t.shape.rows) :
    (directiveMap s c).get ⟨t.name, some r.1⟩ = restored r.2.2 := by
  rw [directiveMap_get hnames ht, typeEntries]
  refine lookup_nonempty ?_ ?_
  · rw [List.map_cons, List.nodup_cons, List.map_map, memberApplications_rows, List.map_map]
    refine ⟨by simp, ?_⟩
    have hkeys : (t.shape.rows.map fun r : MemberRow => (⟨t.name, some r.1⟩ : Coordinate))
        = (t.shape.rows.map (·.1)).map fun n => ⟨t.name, some n⟩ := by
      rw [List.map_map]
      rfl
    refine hkeys ▸ hrows.map fun n n' h => ?_
    cases h
    rfl
  · refine List.mem_cons_of_mem _ (List.mem_map.mpr ⟨(r.1, r.2.2), ?_, rfl⟩)
    rw [memberApplications_rows]
    exact List.mem_map.mpr ⟨r, hr, rfl⟩

/-- What is declared of a type has rows of the type, and only the root of queries keeps any back. -/
theorem declaredMembers_rows (s : Schema) (t : NamedType) :
    (∀ x ∈ declaredMembers s t, x.row ∈ t.shape.rows)
      ∧ ∀ r ∈ t.shape.rows, (∃ x ∈ declaredMembers s t, x.row = r)
        ∨ s.query = some t.name ∧ isFieldName r.1 = true := by
  -- Objects and interfaces declare their fields alike.
  have hfields : ∀ fs : List Field,
      (∀ x ∈ (declaredFields s t fs).map (fieldMember s),
        x.row ∈ fs.map fun f => (f.name, f.deprecation, f.applied))
      ∧ ∀ r ∈ fs.map fun f => (f.name, f.deprecation, f.applied),
        (∃ x ∈ (declaredFields s t fs).map (fieldMember s), x.row = r)
          ∨ s.query = some t.name ∧ isFieldName r.1 = true := by
    intro fs
    constructor
    · intro x hx
      obtain ⟨f, hf, rfl⟩ := List.mem_map.mp hx
      refine List.mem_map.mpr ⟨f, ?_, rfl⟩
      unfold declaredFields at hf
      split at hf
      · exact List.mem_of_mem_filter hf
      · exact hf
    · intro r hr
      obtain ⟨f, hf, rfl⟩ := List.mem_map.mp hr
      by_cases hkept : f ∈ declaredFields s t fs
      · exact .inl ⟨_, List.mem_map_of_mem hkept, rfl⟩
      · unfold declaredFields at hkept
        split at hkept
        · next hroot =>
          rw [List.mem_filter, not_and] at hkept
          exact .inr ⟨hroot, by simpa using hkept hf⟩
        · exact absurd hf hkept
  unfold declaredMembers TypeShape.rows
  cases t.shape with
  | object is fs => exact hfields fs
  | interface is fs => exact hfields fs
  | enum vs =>
    refine ⟨fun x hx => ?_, fun r hr => ?_⟩
    · obtain ⟨v, hv, rfl⟩ := List.mem_map.mp hx
      exact List.mem_map.mpr ⟨v, hv, rfl⟩
    · obtain ⟨v, hv, rfl⟩ := List.mem_map.mp hr
      exact .inl ⟨_, List.mem_map_of_mem hv, rfl⟩
  | input o fs =>
    refine ⟨fun x hx => ?_, fun r hr => ?_⟩
    · obtain ⟨v, hv, rfl⟩ := List.mem_map.mp hx
      exact List.mem_map.mpr ⟨v, hv, rfl⟩
    · obtain ⟨v, hv, rfl⟩ := List.mem_map.mp hr
      exact .inl ⟨_, List.mem_map_of_mem hv, rfl⟩
  | _ => exact ⟨fun x hx => (List.not_mem_nil hx).elim, fun r hr => (List.not_mem_nil hr).elim⟩

end Told
end Subgraph.Federation
