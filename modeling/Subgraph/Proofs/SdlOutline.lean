import Subgraph.Federation.Sdl
import Subgraph.Proofs.Coercion
import Subgraph.Proofs.Lines

/-!
# The federated SDL and the plain one

Both texts come from one outline: the text of the schema with one place for the directives of
every type, field, enum value and input field. The plain text leaves all the places empty, and
the federated SDL fills each with the directives of its coordinate. So the two agree everywhere
else, as long as the schema has no definitions of the protocol itself, which would be left out.
-/

namespace Subgraph

open Federation (Coordinate Classification directiveMap printApplied)

/-- A part of a text: one that is fixed, or the place for what belongs to a coordinate. -/
inductive Piece where
  | text (s : String)
  | slot (c : Coordinate)

abbrev Outline := List Piece

namespace Outline

def fill (f : Coordinate → String) (t : Outline) : String :=
  String.join (t.map fun
    | .text s => s
    | .slot c => f c)

def slots (t : Outline) : List Coordinate := t.filterMap fun
  | .text _ => none
  | .slot c => some c

/-- Outlines one after another with a text between each two. -/
def between (separator : String) : List Outline → Outline
  | [] => []
  | [t] => t
  | t :: ts => t ++ .text separator :: between separator ts

/-- Items in braces, one a line; nothing for no items. -/
def block (items : List Outline) : Outline :=
  if items.isEmpty then [] else .text " \x7b\n" :: between "\n" items ++ [.text "\n\x7d"]

/-- The items of a block; each is told whether it comes first. -/
def items {α : Type} (item : Bool → α → Outline) : List α → List Outline
  | [] => []
  | x :: xs => item true x :: xs.map (item false)

variable (f : Coordinate → String)

@[simp] theorem fill_nil : fill f [] = "" := by
  simp [fill]

@[simp] theorem fill_text (s : String) (t : Outline) : fill f (.text s :: t) = s ++ t.fill f := by
  simp [fill]

@[simp] theorem fill_slot (c : Coordinate) (t : Outline) :
    fill f (.slot c :: t) = f c ++ t.fill f := by
  simp [fill]

@[simp] theorem fill_append (t u : Outline) : fill f (t ++ u) = t.fill f ++ u.fill f := by
  rw [fill, List.map_append, String.join_append]
  rfl

theorem fill_between (separator : String) (ts : List Outline) :
    (between separator ts).fill f = separator.intercalate (ts.map (fill f)) := by
  induction ts with
  | nil => simp [between]
  | cons t ts ih =>
    cases ts with
    | nil => simp [between]
    | cons u us =>
      have hstep : between separator (t :: u :: us)
          = t ++ .text separator :: between separator (u :: us) := rfl
      rw [hstep, fill_append, fill_text, ih]
      simp only [List.map_cons, String.intercalate_cons_cons, String.append_assoc]

theorem fill_block (ts : List Outline) : (block ts).fill f = printBlock (ts.map (fill f)) := by
  cases ts with
  | nil => simp [block, printBlock]
  | cons t ts =>
    have hopen : (" \x7b\n" : String) = " " ++ ("\x7b" ++ "\n") := rfl
    simp only [block, printBlock, List.isEmpty_cons, List.map_cons, fill_text, fill_append,
      fill_between, fill_nil, braced, String.append_empty, Bool.false_eq_true, if_false]
    rw [hopen]
    simp only [String.append_assoc]
    rfl

theorem fill_items {α : Type} (item : Bool → α → Outline) (xs : List α) :
    (items item xs).map (fill f) = printItems (fun first x => (item first x).fill f) xs := by
  cases xs with
  | nil => rfl
  | cons x xs => simp [items, printItems]

theorem fill_ne_empty {t : Outline} {s : String} (ht : .text s ∈ t) (hs : s ≠ "") :
    t.fill f ≠ "" := by
  induction t with
  | nil => cases ht
  | cons p t ih =>
    rcases List.mem_cons.mp ht with rfl | hrest
    · rw [fill_text]
      exact fun h => hs (String.append_eq_empty_iff.mp h).1
    · cases p with
      | text w =>
        rw [fill_text]
        exact fun h => ih hrest (String.append_eq_empty_iff.mp h).2
      | slot c =>
        rw [fill_slot]
        exact fun h => ih hrest (String.append_eq_empty_iff.mp h).2

theorem fill_between_empty_iff (separator : String) {ts : List Outline}
    (h : ∀ t ∈ ts, t.fill f ≠ "") : (between separator ts).fill f = "" ↔ ts = [] := by
  cases ts with
  | nil => simp [between]
  | cons t ts =>
    have ht := h t List.mem_cons_self
    cases ts with
    | nil => simpa [between] using ht
    | cons u us => simp [between, String.append_eq_empty_iff, ht]

@[simp] theorem slots_nil : slots [] = [] := rfl

@[simp] theorem slots_text (s : String) (t : Outline) : slots (.text s :: t) = t.slots := rfl

@[simp] theorem slots_slot (c : Coordinate) (t : Outline) : slots (.slot c :: t) = c :: t.slots :=
  rfl

@[simp] theorem slots_append (t u : Outline) : slots (t ++ u) = t.slots ++ u.slots :=
  List.filterMap_append

theorem slots_between (separator : String) (ts : List Outline) :
    (between separator ts).slots = ts.flatMap slots := by
  induction ts with
  | nil => rfl
  | cons t ts ih =>
    cases ts with
    | nil => simp [between]
    | cons u us =>
      have hstep : between separator (t :: u :: us)
          = t ++ .text separator :: between separator (u :: us) := rfl
      rw [hstep, slots_append, slots_text, ih]
      simp only [List.flatMap_cons]

theorem slots_block (ts : List Outline) : (block ts).slots = ts.flatMap slots := by
  cases ts with
  | nil => rfl
  | cons t ts => simp [block, slots_between]

theorem slots_items {α : Type} {item : Bool → α → Outline} {c : α → Coordinate}
    (h : ∀ first x, (item first x).slots = [c x]) (xs : List α) :
    (items item xs).flatMap slots = xs.map c := by
  cases xs with
  | nil => rfl
  | cons x xs =>
    have hrest : (xs.map (item false)).flatMap slots = xs.map c := by
      induction xs with
      | nil => rfl
      | cons y ys ih => rw [List.map_cons, List.flatMap_cons, h, ih]; rfl
    rw [items, List.flatMap_cons, h, hrest]
    rfl

end Outline

/-- The members of a type that directives can stand at, in the order in which they are printed. -/
def NamedType.coordinates (t : NamedType) : List Coordinate :=
  ⟨t.name, none⟩ :: (Federation.memberApplications t.shape).map fun m => ⟨t.name, some m.1⟩

namespace NamedType
open Outline
variable (t : NamedType)

/-- The start of the declaration of a type, up to the place of its directives. -/
def headOutline (keyword after : String) : Outline :=
  [.text (printDescription t.description "" true ++ keyword ++ " " ++ t.name ++ after),
   .slot ⟨t.name, none⟩]

/-- A member of a type, with its directives at the end. -/
def memberOutline (name declaration : String) : Outline :=
  [.text declaration, .slot ⟨t.name, some name⟩]

def outline (s : Schema) : Outline :=
  match t.shape with
  | .scalar url => t.headOutline "scalar" (printSpecifiedBy url)
  | .object is fs =>
    t.headOutline "type" (printInterfaces is)
      ++ block (items (fun first f => t.memberOutline f.name (s.printField first f)) fs)
  | .interface is fs =>
    t.headOutline "interface" (printInterfaces is)
      ++ block (items (fun first f => t.memberOutline f.name (s.printField first f)) fs)
  | .union ms =>
    t.headOutline "union" ""
      ++ [.text (if ms.isEmpty then "" else " = " ++ " | ".intercalate ms)]
  | .enum vs =>
    t.headOutline "enum" ""
      ++ block (items (fun first v => t.memberOutline v.name (Schema.printEnumValue first v)) vs)
  | .input oneOf fs =>
    t.headOutline "input" (if oneOf then " @oneOf" else "")
      ++ block (items (fun first v => t.memberOutline v.name (s.printArgument "  " first v)) fs)

theorem outline_slots (s : Schema) : (t.outline s).slots = t.coordinates := by
  have hmember : ∀ name declaration,
      (t.memberOutline name declaration).slots = [⟨t.name, some name⟩] := fun _ _ => rfl
  unfold outline coordinates
  cases t.shape with
  | scalar url => rfl
  | union ms => rfl
  | object is fs =>
    rw [slots_append, slots_block, slots_items fun _ f => hmember f.name _]
    simp [headOutline, Federation.memberApplications]
  | interface is fs =>
    rw [slots_append, slots_block, slots_items fun _ f => hmember f.name _]
    simp [headOutline, Federation.memberApplications]
  | enum vs =>
    rw [slots_append, slots_block, slots_items fun _ v => hmember v.name _]
    simp [headOutline, Federation.memberApplications]
  | input o fs =>
    rw [slots_append, slots_block, slots_items fun _ f => hmember f.name _]
    simp [headOutline, Federation.memberApplications]

theorem outline_ne_empty (s : Schema) (f : Coordinate → String) : (t.outline s).fill f ≠ "" := by
  have hhead : ∀ keyword after : String, keyword ≠ "" → ∀ rest : Outline,
      (t.headOutline keyword after ++ rest).fill f ≠ "" := by
    intro keyword after hkeyword rest
    refine fill_ne_empty f (List.mem_append_left _ List.mem_cons_self) fun h => hkeyword ?_
    simp only [String.append_eq_empty_iff] at h
    exact h.1.1.1.2
  unfold outline
  cases t.shape with
  | scalar url => simpa using hhead "scalar" _ (by decide) []
  | object is fs => exact hhead "type" _ (by decide) _
  | interface is fs => exact hhead "interface" _ (by decide) _
  | union ms => exact hhead "union" _ (by decide) _
  | enum vs => exact hhead "enum" _ (by decide) _
  | input o fs => exact hhead "input" _ (by decide) _

theorem outline_plain (s : Schema) : (t.outline s).fill (fun _ => "") = s.printType t := by
  unfold outline Schema.printType
  cases t.shape <;>
    simp [headOutline, memberOutline, fill_block, fill_items, String.append_assoc]

/-- With directives at its places the outline is the declaration in the federated SDL, unless
fields of the protocol are among its fields. -/
theorem outline_federated (s : Schema) (m : Federation.DirectiveMap)
    (h : Federation.declaredFields s t t.shape.fields = t.shape.fields) :
    Federation.printType s m t
      = some ((t.outline s).fill fun c => printApplied (m.get c)) := by
  have hmember : ∀ fs : List Field, printItems (Federation.printField s m t) fs
      = printItems (fun first f => (t.memberOutline f.name (s.printField first f)).fill
          fun c => printApplied (m.get c)) fs := by
    intro fs
    have hfield : Federation.printField s m t = fun first f =>
        (t.memberOutline f.name (s.printField first f)).fill fun c => printApplied (m.get c) := by
      funext first f
      simp [memberOutline, Federation.printField, Schema.printField,
        Federation.printMemberDirectives]
    rw [hfield]
  unfold outline Federation.printType
  cases hs : t.shape with
  | scalar url => simp [headOutline, Federation.printTypeDirectives, String.append_assoc]
  | union ms => simp [headOutline, Federation.printTypeDirectives, String.append_assoc]
  | object is fs =>
    have hdeclared : Federation.declaredFields s t fs = fs := by simpa [hs, TypeShape.fields] using h
    simp [headOutline, Federation.printComposite, Federation.printTypeDirectives, hdeclared,
      fill_block, fill_items, hmember, String.append_assoc]
  | interface is fs =>
    have hdeclared : Federation.declaredFields s t fs = fs := by simpa [hs, TypeShape.fields] using h
    simp [headOutline, Federation.printComposite, Federation.printTypeDirectives, hdeclared,
      fill_block, fill_items, hmember, String.append_assoc]
  | enum vs =>
    have hvalue : Federation.printEnumValue m t
        = fun first v => (t.memberOutline v.name (Schema.printEnumValue first v)).fill
            fun c => printApplied (m.get c) := by
      funext first v
      simp [memberOutline, Federation.printEnumValue, Schema.printEnumValue,
        Federation.printMemberDirectives]
    simp [headOutline, Federation.printTypeDirectives, fill_block, fill_items, hvalue,
      String.append_assoc]
  | input o fs =>
    have hfield : Federation.printInputField s m t
        = fun first v => (t.memberOutline v.name (s.printArgument "  " first v)).fill
            fun c => printApplied (m.get c) := by
      funext first v
      simp [memberOutline, Federation.printInputField, Schema.printArgument,
        Federation.printMemberDirectives]
    simp [headOutline, Federation.printTypeDirectives, fill_block, fill_items, hfield,
      String.append_assoc]

end NamedType

namespace Schema
open Outline
variable (s : Schema)

/-- The text of a schema with the places for directives. -/
def outline : Outline :=
  between "\n\n" (s.printDefinition.toList.map (fun d => [.text d])
    ++ s.ownDirectives.map (fun d => [.text (s.printDirective d)])
    ++ s.ownTypes.map (·.outline s))

/-- The declarations of a schema that directives can stand at, in order. -/
def coordinates : List Coordinate := s.ownTypes.flatMap (·.coordinates)

theorem outline_slots : s.outline.slots = s.coordinates := by
  have htext : ∀ texts : List String, (texts.map fun d => [Piece.text d]).flatMap slots = [] := by
    intro texts
    simp [slots]
  have htypes : (s.ownTypes.map (·.outline s)).flatMap slots = s.coordinates := by
    rw [List.flatMap_map]
    exact flatMap_eq_of_mem fun t _ => t.outline_slots s
  rw [outline, slots_between, List.flatMap_append, List.flatMap_append, htypes, htext]
  simp [slots]

theorem outline_plain : s.outline.fill (fun _ => "") = s.print := by
  have htypes : (s.ownTypes.map (·.outline s)).map (fill fun _ => "")
      = s.ownTypes.map s.printType := by
    rw [List.map_map]
    exact List.map_congr_left fun t _ => t.outline_plain s
  rw [outline, fill_between, List.map_append, List.map_append, htypes, print]
  simp [Function.comp_def]

theorem printDefinition_ne_empty {d : String} (hd : s.printDefinition = some d) : d ≠ "" := by
  unfold printDefinition at hd
  split at hd
  · cases hd
  · obtain rfl := Option.some.inj hd
    simp [String.append_eq_empty_iff]

theorem printDirective_ne_empty (d : DirectiveType) : s.printDirective d ≠ "" := by
  simp [printDirective, String.append_eq_empty_iff]

theorem outline_empty_iff (f : Coordinate → String) :
    s.outline.fill f = "" ↔ s.print = "" := by
  have hparts : ∀ (g : Coordinate → String) (t : Outline),
      t ∈ s.printDefinition.toList.map (fun d => [Piece.text d])
        ++ s.ownDirectives.map (fun d => [.text (s.printDirective d)])
        ++ s.ownTypes.map (·.outline s) → t.fill g ≠ "" := by
    intro g t ht
    rcases List.mem_append.mp ht with ht | ht
    · rcases List.mem_append.mp ht with ht | ht
      · obtain ⟨d, hd, rfl⟩ := List.mem_map.mp ht
        simpa using s.printDefinition_ne_empty (Option.mem_toList.mp hd)
      · obtain ⟨d, -, rfl⟩ := List.mem_map.mp ht
        simpa using s.printDirective_ne_empty d
    · obtain ⟨u, -, rfl⟩ := List.mem_map.mp ht
      exact u.outline_ne_empty s g
  rw [← s.outline_plain, outline, fill_between_empty_iff _ _ (hparts f),
    fill_between_empty_iff _ _ (hparts _)]

/-- Some operation has a root type. -/
def hasRoot : Bool := [OperationKind.query, .mutation, .subscription].any fun k => (s.root k).isSome

/-- What is shown of a schema. A description needs a line of a root to stand above it: where
there is none, no schema definition is shown at all. -/
def shown : Schema :=
  if s.printDefinition.all Text.hasIndentedLine then s else { s with description := none }

theorem printDefinition_indented {d : String} (hroot : s.hasRoot = true)
    (hd : s.printDefinition = some d) : Text.hasIndentedLine d = true := by
  obtain ⟨first, rest, hroots, hfirst⟩ : ∃ first rest,
      [OperationKind.query, .mutation, .subscription].filterMap s.printRoot = first :: rest
        ∧ ∃ r, first = "  " ++ r := by
    cases hlist : [OperationKind.query, .mutation, .subscription].filterMap s.printRoot with
    | nil =>
      obtain ⟨k, hk, hsome⟩ := List.any_eq_true.mp hroot
      have hnone := List.filterMap_eq_nil_iff.mp hlist k hk
      rw [printRoot, Option.map_eq_none_iff] at hnone
      rw [hnone] at hsome
      cases hsome
    | cons first rest =>
      refine ⟨first, rest, rfl, ?_⟩
      have hmem : first ∈ [OperationKind.query, .mutation, .subscription].filterMap s.printRoot := by
        rw [hlist]
        exact List.mem_cons_self
      obtain ⟨k, -, hk⟩ := List.mem_filterMap.mp hmem
      obtain ⟨n, -, rfl⟩ := Option.map_eq_some_iff.mp hk
      exact ⟨k.name ++ (": " ++ n), by simp only [String.append_assoc]⟩
  obtain ⟨r, rfl⟩ := hfirst
  obtain ⟨below, hbelow⟩ : ∃ below, "\n".intercalate (("  " ++ r) :: rest) = "  " ++ below := by
    cases rest with
    | nil => exact ⟨r, String.intercalate_singleton⟩
    | cons next rest =>
      refine ⟨r ++ ("\n" ++ "\n".intercalate (next :: rest)), ?_⟩
      rw [String.intercalate_cons_cons]
      simp only [String.append_assoc]
  unfold printDefinition at hd
  split at hd
  · cases hd
  · obtain rfl := Option.some.inj hd
    have hshape : printDescription s.description "" true ++ "schema "
          ++ braced ("\n" ++ "\n".intercalate (("  " ++ r) :: rest) ++ "\n")
        = (printDescription s.description "" true ++ "schema " ++ "\x7b") ++ "\n"
          ++ ("  " ++ (below ++ "\n" ++ "\x7d")) := by
      rw [hbelow]
      simp only [braced, String.append_assoc]
    rw [hroots, hshape, Text.hasIndentedLine_append_break, Text.hasIndentedLine_of_indented,
      Bool.or_true]

theorem hasDefaultRoots_of_rootless (h : s.hasRoot = false) : s.hasDefaultRoots = true := by
  refine List.all_eq_true.mpr fun k hk => ?_
  have hnone := List.any_eq_false.mp h k hk
  cases hr : s.root k with
  | none => rfl
  | some n =>
    rw [hr] at hnone
    exact absurd rfl hnone

theorem shown_of_rooted (h : s.description = none ∨ s.hasRoot = true) : s.shown = s := by
  have hall : s.printDefinition.all Text.hasIndentedLine = true := by
    cases hd : s.printDefinition with
    | none => rfl
    | some d =>
      rcases h with hnone | hroot
      · cases hroot : s.hasRoot with
        | true => exact s.printDefinition_indented hroot hd
        | false =>
          rw [printDefinition, hnone, s.hasDefaultRoots_of_rootless hroot] at hd
          cases hd
      · exact s.printDefinition_indented hroot hd
  rw [shown, hall, if_pos rfl]

theorem printDefinition_shown :
    s.shown.printDefinition = s.printDefinition.filter Text.hasIndentedLine := by
  cases hd : s.printDefinition with
  | none => rw [shown, hd, Option.all_none, if_pos rfl, hd, Option.filter_none]
  | some d =>
    cases hline : Text.hasIndentedLine d with
    | true =>
      rw [shown, hd, Option.all_some, hline, if_pos rfl, hd, Option.filter_some, if_pos hline]
    | false =>
      have hroot : s.hasRoot = false := by
        cases hroot : s.hasRoot with
        | false => rfl
        | true =>
          rw [s.printDefinition_indented hroot hd] at hline
          cases hline
      have hdefault : hasDefaultRoots { s with description := none } = true :=
        s.hasDefaultRoots_of_rootless hroot
      rw [shown, hd, Option.all_some, hline, if_neg Bool.false_ne_true, Option.filter_some,
        if_neg (by rw [hline]; exact Bool.false_ne_true), printDefinition, hdefault]
      rfl

theorem shown_types : s.shown.types = s.types := by
  unfold shown
  split <;> rfl

theorem shown_directives : s.shown.directives = s.directives := by
  unfold shown
  split <;> rfl

end Schema

section SameTypes
variable {s s' : Schema} (h : s'.types = s.types)
include h

theorem Schema.printInputValue_of_types : s'.printInputValue = s.printInputValue := by
  funext v
  have hdefault : s'.printDefault v = s.printDefault v := by
    have hliteral : ∀ d : Value, d.literal? s' v.type = d.literal? s v.type :=
      fun d => Value.literal?_rebuilt (.of_types h) d v.type trivial
    simp only [Schema.printDefault, v.default_of_types h, hliteral]
  rw [Schema.printInputValue, Schema.printInputValue, hdefault]

theorem Schema.printArgument_of_types : s'.printArgument = s.printArgument := by
  funext indent first v
  rw [Schema.printArgument, Schema.printArgument, printInputValue_of_types h]

theorem Schema.printArguments_of_types : s'.printArguments = s.printArguments := by
  funext indent args
  rw [Schema.printArguments, Schema.printArguments, printInputValue_of_types h,
    printArgument_of_types h]

theorem Schema.printDirective_of_types : s'.printDirective = s.printDirective := by
  funext d
  rw [Schema.printDirective, Schema.printDirective, printArguments_of_types h]

theorem NamedType.outline_of_types (t : NamedType) : t.outline s' = t.outline s := by
  have hfield : s'.printField = s.printField := by
    funext first f
    rw [Schema.printField, Schema.printField, Schema.printArguments_of_types h]
  unfold NamedType.outline
  rw [hfield, Schema.printArgument_of_types h]

theorem Schema.unwritableDefault?_of_types : s'.unwritableDefault? = s.unwritableDefault? := by
  funext v
  have hpart : ∀ d : Value, d.unwritable? s' v.type = d.unwritable? s v.type :=
    fun d => Value.unwritable?_rebuilt (.of_types h) d v.type trivial
  simp only [Schema.unwritableDefault?, v.default_of_types h, hpart]

end SameTypes

/-- A schema without any definition of the protocol. -/
structure Schema.IsPlain (s : Schema) : Prop where
  types : ∀ t ∈ s.types, Federation.isTypeName t.name = false
  directives : ∀ d ∈ s.directives, Federation.isDirectiveName d.name = false
  root : ∀ t ∈ s.types, s.query = some t.name → ∀ f ∈ t.shape.fields,
    Federation.isFieldName f.name = false

namespace Federation
variable {s : Schema}

theorem serviceTypes_plain (h : s.IsPlain) : serviceTypes s = s.ownTypes := by
  refine List.filter_congr fun t ht => ?_
  rw [h.types t ht, Bool.not_false, Bool.and_true]

theorem serviceDirectives_plain (h : s.IsPlain) : serviceDirectives s = s.ownDirectives := by
  refine List.filter_eq_self.mpr fun d hd => ?_
  rw [h.directives d (List.mem_of_mem_filter hd), Bool.not_false]

theorem declaredFields_plain (h : s.IsPlain) {t : NamedType} (ht : t ∈ s.types) :
    declaredFields s t t.shape.fields = t.shape.fields := by
  unfold declaredFields
  split
  · next hq =>
    refine List.filter_eq_self.mpr fun f hf => ?_
    rw [h.root t ht hq f hf, Bool.not_false]
  · rfl

theorem printType_plain (h : s.IsPlain) (m : DirectiveMap) {t : NamedType} (ht : t ∈ s.types) :
    printType s m t = some ((t.outline s).fill fun c => printApplied (m.get c)) :=
  t.outline_federated s m (declaredFields_plain h ht)

theorem leftOut_plain (h : s.IsPlain) (m : DirectiveMap) : leftOut s m = [] := by
  refine List.map_eq_nil_iff.mpr (List.filter_eq_nil_iff.mpr fun t ht => ?_)
  rw [printType_plain h m (List.mem_of_mem_filter ht)]
  exact Bool.false_ne_true

theorem printDefinition_nil (s : Schema) : printDefinition s [] = s.shown.printDefinition := by
  have hkeep : ∀ ls : List String,
      (ls.filter fun l => !(l.startsWith "  " && [].contains (lastPart ": " l))) = ls := by
    intro ls
    refine List.filter_eq_self.mpr fun l _ => ?_
    rw [List.contains_nil, Bool.and_false, Bool.not_false]
  rw [s.printDefinition_shown, printDefinition]
  cases s.printDefinition with
  | none => rfl
  | some d =>
    simp only [Option.bind_some, hkeep, Text.joinLines_splitLines]
    rfl

theorem definitions_plain (h : s.IsPlain) (c : Classification) :
    "\n\n".intercalate (definitions s c)
      = s.shown.outline.fill fun p => printApplied ((directiveMap s c).get p) := by
  have htypes : (serviceTypes s).filterMap (printType s (directiveMap s c))
      = s.ownTypes.map fun t =>
          (t.outline s).fill fun p => printApplied ((directiveMap s c).get p) := by
    rw [serviceTypes_plain h, ← List.filterMap_eq_map]
    exact filterMap_eq_of_mem fun t ht => printType_plain h _ (List.mem_of_mem_filter ht)
  have hown : s.shown.ownTypes = s.ownTypes := by
    rw [Schema.ownTypes, Schema.ownTypes, s.shown_types]
  have howndirectives : s.shown.ownDirectives = s.ownDirectives := by
    rw [Schema.ownDirectives, Schema.ownDirectives, s.shown_directives]
  have houtlines : ∀ t : NamedType, t.outline s.shown = t.outline s :=
    NamedType.outline_of_types s.shown_types
  rw [Schema.outline, Outline.fill_between, definitions, htypes, leftOut_plain h,
    printDefinition_nil, serviceDirectives_plain h, hown, howndirectives,
    Schema.printDirective_of_types s.shown_types]
  simp [houtlines, Function.comp_def]

theorem unwritableIn?_plain (h : s.IsPlain) {t : NamedType} (ht : t ∈ s.types) :
    unwritableIn? s t = s.unwritableIn? t := by
  have hdeclared := declaredFields_plain h ht
  unfold unwritableIn? Schema.unwritableIn?
  cases hs : t.shape with
  | input o fs => rfl
  | _ =>
    rw [hs] at hdeclared
    simp only [hdeclared]

theorem unwritable?_plain (h : s.IsPlain) :
    (unwritable? s).isSome = s.shown.unwritable?.isSome := by
  have hin : ∀ t : NamedType, s.shown.unwritableIn? t = s.unwritableIn? t := by
    intro t
    rw [Schema.unwritableIn?, Schema.unwritableIn?,
      Schema.unwritableDefault?_of_types s.shown_types]
  have htypes : s.ownTypes.findSome? (unwritableIn? s) = s.ownTypes.findSome? s.unwritableIn? :=
    findSome?_eq_of_mem fun t ht => unwritableIn?_plain h (List.mem_of_mem_filter ht)
  have hown : s.shown.ownTypes = s.ownTypes := by
    rw [Schema.ownTypes, Schema.ownTypes, s.shown_types]
  have howndirectives : s.shown.ownDirectives = s.ownDirectives := by
    rw [Schema.ownDirectives, Schema.ownDirectives, s.shown_directives]
  rw [unwritable?, Schema.unwritable?, serviceTypes_plain h, serviceDirectives_plain h, htypes,
    hown, howndirectives, funext hin, Schema.unwritableDefault?_of_types s.shown_types,
    Option.isSome_or, Option.isSome_or, Bool.or_comm]

theorem printSdl?_plain (h : s.IsPlain) (c : Classification) :
    (printSdl? s c).toOption = s.shown.print?.toOption.map fun text =>
      if text = "" then ""
      else s.shown.outline.fill (fun p => printApplied ((directiveMap s c).get p)) ++ "\n" := by
  have hsome := unwritable?_plain h
  unfold printSdl? Schema.print?
  cases hu : unwritable? s with
  | some e =>
    rw [hu] at hsome
    obtain ⟨e', he'⟩ := Option.isSome_iff_exists.mp hsome.symm
    rw [he']
    rfl
  | none =>
    rw [hu] at hsome
    rw [Option.isSome_eq_false_iff.mp hsome.symm |> Option.isNone_iff_eq_none.mp]
    have hempty := s.shown.outline_empty_iff fun p => printApplied ((directiveMap s c).get p)
    simp only [Except.toOption, Option.map_some, printSdl, definitions_plain h, hempty]

/-- A small catalog, which knows nothing of the protocol. -/
def catalog : Schema where
  description := some "The catalog."
  types :=
    [⟨none, "Query", .object [] [⟨none, "product", [], .named "Product", none, []⟩], []⟩,
     ⟨none, "Product", .object [] [⟨none, "id", [], .nonNull (.named "ID"), none, []⟩], []⟩]
  directives := []
  query := some "Query"
  mutation := none
  subscription := none

end Federation
end Subgraph
