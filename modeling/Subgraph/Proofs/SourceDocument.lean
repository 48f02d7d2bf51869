import Subgraph.Proofs.DefinitionLines
import Subgraph.Proofs.DocumentText
import Subgraph.Proofs.ShownDirectives
import Subgraph.Proofs.StableLiterals

/-!
# The document of an SDL

An SDL is the text of a document. Its definitions have the directives that their declarations show, with
those that are shown without being told in front, and the defaults as they are read back.
-/

namespace Subgraph.Federation
open Text

section Source
variable (s : Schema) (c : Classification)

/-- The literal that the default of an argument or input field is written as, in the form it is read in. -/
def shownDefault (v : InputValue) : Option Constant :=
  ((v.default s).bind fun d => d.literal? s v.type).map Literal.reread

def inputSource (told : List Applied) (v : InputValue) : InputDefinition Unit :=
  ⟨v.description, v.name, v.type, shownDefault s v, deprecationApplied v.deprecation ++ told⟩

/-- Arguments without any description that says something. -/
def areQuiet (vs : List InputValue) : Bool := vs.all fun v => v.description.all (· == "")

/-- Quiet arguments stand on one line and are not described. -/
def argumentSources (vs : List InputValue) : List (InputDefinition Unit) :=
  vs.map fun v => inputSource s [] (if areQuiet vs then { v with description := none } else v)

def fieldSource (f : Field) : FieldDefinition Unit :=
  ⟨f.description, f.name, argumentSources s f.arguments, f.type,
    deprecationApplied f.deprecation ++ restored f.applied⟩

def enumSource (v : EnumValue) : EnumValueDefinition Unit :=
  ⟨v.description, v.name, deprecationApplied v.deprecation ++ restored v.applied⟩

def bodySource : TypeShape → TypeBody Unit
  | .scalar _ => .scalar
  | .object is fs => .object is (fs.map (fieldSource s))
  | .interface is fs => .interface is (fs.map (fieldSource s))
  | .union ms => .union ms
  | .enum vs => .enum (vs.map enumSource)
  | .input _ fs => .input (fs.map fun v => inputSource s (restored v.applied) v)

def typeSource (t : NamedType) : TypeDefinition Unit :=
  ⟨(), t.name, t.shape.attributes ++ typeDirectives c t, bodySource s t.shape⟩

def directiveSource (d : DirectiveType) : DirectiveDefinition Unit :=
  ⟨(), d.description, d.name, argumentSources s d.arguments, d.repeatable, d.locations⟩

/-- The schema definition, which is left out where the roots have their usual names. -/
def schemaSource : Option (SchemaDefinition Unit) :=
  if s.description.isNone && s.hasDefaultRoots || (rootsOf s).isEmpty then none
  else some ⟨(), [], rootsOf s⟩

/-- The document that the SDL of a schema is the text of. -/
def source : Document Unit :=
  ((schemaSource s).map (.schema s.description)).toList
    ++ (serviceDirectives s).map (fun d => .directive (directiveSource s d))
    ++ (serviceTypes s).map fun t => .type t.description (typeSource s c t)

end Source

section Text
variable {s : Schema} {c : Classification}

theorem print_shownDefault (v : InputValue) : defaultText (shownDefault s v) = s.printDefault v := by
  unfold shownDefault Schema.printDefault
  cases (v.default s).bind fun d => d.literal? s v.type with
  | none => rfl
  | some l => simp [defaultText, Literal.print_reread]

theorem text_inputSource (told : List Applied) (v : InputValue) :
    (inputSource s told v).text = s.printInputValue v ++ printApplied told := by
  simp only [InputDefinition.text, inputSource, print_shownDefault, Schema.printInputValue,
    printApplied_append, printDeprecation_eq, String.append_assoc]

theorem text_arguments (indent : String) (vs : List InputValue) :
    Document.argumentsText indent (argumentSources s vs) = s.printArguments indent vs := by
  have htext : ∀ v : InputValue, (inputSource s [] v).text = s.printInputValue v := fun v => by
    rw [text_inputSource, printApplied_nil, String.append_empty]
  have hempty : (argumentSources s vs).isEmpty = vs.isEmpty := by
    rw [argumentSources, List.isEmpty_map]
  unfold Document.argumentsText Schema.printArguments
  rw [hempty]
  split
  · rfl
  · next hne =>
    change _ = if areQuiet vs = true then _ else _
    cases hquiet : areQuiet vs with
    | true =>
      have hnone : ((argumentSources s vs).all fun a => a.description.isNone) = true := by
        simp [argumentSources, hquiet, inputSource]
      have hplain : ∀ v : InputValue, s.printInputValue { v with description := none }
          = s.printInputValue v :=
        fun _ => rfl
      rw [if_pos hnone, if_pos rfl, argumentSources, List.map_map]
      simp only [hquiet, if_true, Function.comp_def, htext, hplain]
    | false =>
      have hsome : ((argumentSources s vs).all fun a => a.description.isNone) = false := by
        obtain ⟨v, hv, hd⟩ := List.all_eq_false.mp hquiet
        refine List.all_eq_false.mpr ⟨inputSource s [] v, ?_, ?_⟩
        · exact List.mem_map.mpr ⟨v, hv, by simp [hquiet]⟩
        · cases hdescription : v.description with
          | none => rw [hdescription] at hd; exact absurd rfl hd
          | some d => simp [inputSource, hdescription]
      have hlined : (fun first v => (inputSource s [] v).lined ("  " ++ indent) first)
          = s.printArgument ("  " ++ indent) := by
        funext first v
        rw [InputDefinition.lined, htext]
        rfl
      rw [if_neg (by rw [hsome]; exact Bool.false_ne_true), if_neg Bool.false_ne_true, argumentSources]
      simp only [hquiet, Bool.false_eq_true, if_false, printItems_map, hlined]

section Types
variable {t : NamedType}

theorem keyword_eq (shape : TypeShape) : keyword shape = (bodySource s shape).word := by
  cases shape <;> rfl

theorem text_field {m : DirectiveMap} {f : Field} (h : m.get ⟨t.name, some f.name⟩ = restored f.applied)
    (first : Bool) : (fieldSource s f).lined first = printMember m t first (fieldMember s f) := by
  simp only [FieldDefinition.lined, fieldSource, text_arguments, printMember, fieldMember, shownAtMember, h]

theorem text_enumValue {m : DirectiveMap} {v : EnumValue}
    (h : m.get ⟨t.name, some v.name⟩ = restored v.applied) (first : Bool) :
    (enumSource v).lined first = printMember m t first (enumMember v) := by
  simp only [EnumValueDefinition.lined, enumSource, printMember, enumMember, shownAtMember, h]

theorem text_inputField {m : DirectiveMap} {v : InputValue}
    (h : m.get ⟨t.name, some v.name⟩ = restored v.applied) (first : Bool) :
    (inputSource s (restored v.applied) v).lined "  " first = printMember m t first (inputMember s v) := by
  simp only [InputDefinition.lined, text_inputSource, printMember, inputMember, shownAtMember, h,
    Schema.printInputValue, printApplied_append, printDeprecation_eq, String.append_assoc]
  rfl

theorem text_members {α β : Type} {m : DirectiveMap} {lined : Bool → β → String} {source : α → β}
    {member : α → Member} {xs : List α} (hrows : t.shape.rows = xs.map fun x => (member x).row)
    (hmember : ∀ r ∈ t.shape.rows, m.get ⟨t.name, some r.1⟩ = restored r.2.2)
    (htext : ∀ x, m.get ⟨t.name, some (member x).row.1⟩ = restored (member x).row.2.2 →
      ∀ first, lined first (source x) = printMember m t first (member x)) :
    printItems lined (xs.map source) = printItems (printMember m t) (xs.map member) := by
  rw [printItems_map (printMember m t)]
  refine printItems_map_congr fun x hx => htext x (hmember _ ?_)
  rw [hrows]
  exact List.mem_map_of_mem hx

theorem text_type (hnames : (s.types.map (·.name)).Nodup) (ht : t ∈ serviceTypes s)
    (hrows : (t.shape.rows.map (·.1)).Nodup)
    (hall : declaredFields s t t.shape.fields = t.shape.fields) :
    printType s (directiveMap s c) t
      = some (Definition.type t.description (typeSource s c t)).text := by
  have hmember : ∀ r ∈ t.shape.rows, (directiveMap s c).get ⟨t.name, some r.1⟩ = restored r.2.2 :=
    fun r hr => directiveMap_member hnames ht hrows hr
  have hfields : ∀ fs : List Field, t.shape.rows = fs.map (fun f => (f.name, f.deprecation, f.applied)) →
      printItems FieldDefinition.lined (fs.map (fieldSource s))
        = printItems (printMember (directiveMap s c) t) (fs.map (fieldMember s)) :=
    fun fs hfs => text_members hfs hmember fun f hf first => text_field hf first
  have hkept : isLeftOut s t = false := by
    rw [isLeftOut, hall, Bool.and_not_self]
  obtain ⟨decl, hdecl⟩ : ∃ decl, printType s (directiveMap s c) t = some decl := by
    rw [printType_declared, hkept]
    exact ⟨_, rfl⟩
  have hshown : shownAtType (directiveMap s c) t = (typeSource s c t).directives := by
    rw [shownAtType, directiveMap_type hnames ht]
    rfl
  have hdeclared : ∀ fs : List Field, t.shape.fields = fs → declaredFields s t fs = fs := by
    rintro fs rfl
    exact hall
  rw [hdecl, printType_eq s _ t hdecl, declarationText, hshown, startText, keyword_eq (s := s)]
  simp only [Definition.text, TypeDefinition.text, TypeDefinition.tail, typeSource, declaredMembers,
    String.append_assoc, Option.some.injEq]
  have hnone : printBlock (printItems (printMember (directiveMap s c) t) []) = "" := rfl
  cases hs : t.shape with
  | object is fs =>
    have hblock := hfields fs (by rw [hs]; rfl)
    simp only [bodySource, TypeShape.interfaces, unionText, String.empty_append, hblock,
      hdeclared fs (by rw [hs]; rfl)]
  | interface is fs =>
    have hblock := hfields fs (by rw [hs]; rfl)
    simp only [bodySource, TypeShape.interfaces, unionText, String.empty_append, hblock,
      hdeclared fs (by rw [hs]; rfl)]
  | enum vs =>
    have hblock : printItems EnumValueDefinition.lined (vs.map enumSource)
        = printItems (printMember (directiveMap s c) t) (vs.map enumMember) :=
      text_members (by rw [hs]; rfl) hmember fun v hv first => text_enumValue hv first
    simp only [bodySource, TypeShape.interfaces, unionText, printInterfaces, List.isEmpty_nil, if_true,
      String.empty_append, hblock]
  | input o fs =>
    have hblock : printItems (InputDefinition.lined "  ")
          (fs.map fun v => inputSource s (restored v.applied) v)
        = printItems (printMember (directiveMap s c) t) (fs.map (inputMember s)) :=
      text_members (by rw [hs]; rfl) hmember fun v hv first => text_inputField hv first
    simp only [bodySource, TypeShape.interfaces, unionText, printInterfaces, List.isEmpty_nil, if_true,
      String.empty_append, hblock]
  | scalar url =>
    simp only [bodySource, TypeShape.interfaces, unionText, printInterfaces, List.isEmpty_nil, if_true,
      String.empty_append, hnone, String.append_empty]
  | union ms =>
    simp only [bodySource, TypeShape.interfaces, unionText, printInterfaces, List.isEmpty_nil, if_true,
      String.empty_append, hnone, String.append_empty]

end Types

theorem text_directive (d : DirectiveType) :
    (Definition.directive (directiveSource s d)).text = s.printDirective d := by
  simp only [Definition.text, DirectiveDefinition.text, directiveSource, text_arguments,
    Schema.printDirective,
    String.append_assoc]

theorem text_definition_roots : (Definition.schema s.description ⟨(), [], rootsOf s⟩).text
    = Subgraph.definitionText s.description s.rootLines := by
  rw [rootLines_eq]
  rfl

theorem hasIndentedLine_roots (hroots : rootsOf s ≠ []) :
    hasIndentedLine (Subgraph.definitionText s.description s.rootLines) = true := by
  obtain ⟨o, os, hos⟩ := List.exists_cons_of_ne_nil hroots
  have hindented : ∃ rest, "\n".intercalate ((o :: os).map rootText) ++ "\n" ++ "\x7d" = "  " ++ rest := by
    have hfirst : rootText o = "  " ++ (o.1.name ++ (": " ++ o.2)) := by
      rw [rootText, String.append_assoc, String.append_assoc]
    cases os with
    | nil => exact ⟨_, by rw [List.map_singleton, String.intercalate_singleton, hfirst, String.append_assoc,
        String.append_assoc]⟩
    | cons o' os => exact ⟨_, by rw [List.map_cons, List.map_cons, String.intercalate_cons_cons, hfirst,
        String.append_assoc, String.append_assoc, String.append_assoc, String.append_assoc]⟩
  obtain ⟨rest, hrest⟩ := hindented
  rw [definitionText_eq, rootLines_eq, hos, hasIndentedLine_append_break, hrest, hasIndentedLine_of_indented,
    Bool.or_true]

theorem printDefinition_whole : printDefinition s []
    = s.printDefinition.bind fun d => if hasIndentedLine d then some d else none := by
  unfold printDefinition
  refine Option.bind_congr fun d _ => ?_
  have hkeep : (splitLines d).filter (fun l => !(l.startsWith "  " && [].contains (lastPart ": " l)))
      = splitLines d := by
    rw [List.filter_eq_self]
    intro l _
    rw [List.contains_nil, Bool.and_false, Bool.not_false]
  simp only [hkeep, joinLines_splitLines]
  rfl

theorem text_schema (hroots : rootsOf s = [] → printDefinition s [] = none) :
    printDefinition s [] = (schemaSource s).map fun d => (Definition.schema s.description d).text := by
  cases hnone : (rootsOf s).isEmpty with
  | true =>
    rw [hroots (List.isEmpty_iff.mp hnone), schemaSource, hnone, Bool.or_true, if_pos rfl]
    rfl
  | false =>
    have hindented := hasIndentedLine_roots (s := s) (List.isEmpty_eq_false_iff.mp hnone)
    rw [printDefinition_whole, Schema.printDefinition_eq, schemaSource, hnone, Bool.or_false]
    split
    · rfl
    · rw [Option.bind_some, if_pos hindented, Option.map_some, text_definition_roots]

theorem text_definitions (hnames : (s.types.map (·.name)).Nodup)
    (hrows : ∀ t ∈ serviceTypes s, (t.shape.rows.map (·.1)).Nodup)
    (hall : ∀ t ∈ serviceTypes s, declaredFields s t t.shape.fields = t.shape.fields)
    (hroots : rootsOf s = [] → printDefinition s [] = none) :
    definitions s c = (source s c).map Definition.text := by
  have hleft : leftOut s (directiveMap s c) = [] := by
    rw [leftOut_eq, leftOutNames, List.map_eq_nil_iff, List.filter_eq_nil_iff]
    intro t ht
    rw [isLeftOut, hall t ht, Bool.and_not_self]
    exact Bool.false_ne_true
  have htypes : (serviceTypes s).filterMap (printType s (directiveMap s c))
      = (serviceTypes s).map fun t => (Definition.type t.description (typeSource s c t)).text := by
    rw [← List.filterMap_eq_map]
    exact filterMap_eq_of_mem fun t ht => text_type hnames ht (hrows t ht) (hall t ht)
  have hdirectives : (serviceDirectives s).map s.printDirective
      = (serviceDirectives s).map fun d => (Definition.directive (directiveSource s d)).text :=
    List.map_congr_left fun d _ => (text_directive d).symm
  rw [definitions, hleft, text_schema hroots, htypes, hdirectives, source, List.map_append, List.map_append,
    List.map_map, List.map_map]
  cases schemaSource s <;> rfl

theorem text_ne_empty {d : Definition Unit} (h : d.IsWritable) : d.text ≠ "" := by
  obtain ⟨description, w, b, htext, -⟩ := Parser.text_definition h
  rw [htext, Ne, String.append_eq_empty_iff, String.append_eq_empty_iff, String.append_eq_empty_iff]
  exact fun hempty => absurd hempty.2.2.1 (by decide)

/-- An SDL with a definition is the text of its document. -/
theorem printSdl_source (htext : definitions s c = (source s c).map Definition.text) (hne : source s c ≠ [])
    (hwritable : ∀ d ∈ source s c, d.IsWritable) : printSdl s c = (source s c).text := by
  have hsdl : "\n\n".intercalate ((source s c).map Definition.text) ≠ "" := by
    obtain ⟨d, ds, hds⟩ := List.exists_cons_of_ne_nil hne
    have hd := text_ne_empty (hwritable d (hds ▸ List.mem_cons_self))
    rw [hds, List.map_cons]
    cases ds with
    | nil => rwa [List.map_nil, String.intercalate_singleton]
    | cons e ds =>
      rw [List.map_cons, String.intercalate_cons_cons, Ne, String.append_eq_empty_iff,
        String.append_eq_empty_iff]
      exact fun hempty => hd hempty.1.1
  rw [printSdl, htext]
  exact if_neg hsdl

end Text
end Subgraph.Federation
