import Subgraph.Proofs.LiteralText

/-!
# Members read back

Arguments, fields and enum values, with their descriptions, laid out as members of printed types are.
Everything that stands in them has to be writable: names have to be names, numbers numbers, and nothing
may be nested deeper than is read.
-/

namespace Subgraph
open Federation Token

section Texts

def defaultText (d : Option (Literal Unit)) : String :=
  match d with
  | some l => " = " ++ l.print
  | none => ""

namespace InputDefinition

def text (d : InputDefinition Unit) : String :=
  d.name ++ ": " ++ d.type.text ++ defaultText d.default? ++ printApplied d.directives

/-- The text on a line of its own, below its description. -/
def lined (indent : String) (first : Bool) (d : InputDefinition Unit) : String :=
  printDescription d.description indent first ++ indent ++ d.text

end InputDefinition

/-- Arguments stand on one line unless one of them is described. -/
def Document.argumentsText (indent : String) (args : List (InputDefinition Unit)) : String :=
  if args.isEmpty then ""
  else if args.all (·.description.isNone) then "(" ++ ", ".intercalate (args.map (·.text)) ++ ")"
  else
    "(\n" ++ "\n".intercalate (printItems (InputDefinition.lined ("  " ++ indent)) args)
      ++ "\n" ++ indent ++ ")"

def FieldDefinition.lined (first : Bool) (f : FieldDefinition Unit) : String :=
  printDescription f.description "  " first ++ "  " ++ f.name
    ++ Document.argumentsText "  " f.arguments ++ ": " ++ f.type.text ++ printApplied f.directives

def EnumValueDefinition.lined (first : Bool) (v : EnumValueDefinition Unit) : String :=
  printDescription v.description "  " first ++ "  " ++ v.name ++ printApplied v.directives

end Texts

section Writable

structure TypeRef.IsLegible (t : TypeRef) : Prop where
  writable : t.IsWritable
  lists : t.lists ≤ Document.deepestNesting

structure InputDefinition.IsWritable (d : InputDefinition Unit) : Prop where
  name : isName d.name = true
  type : d.type.IsLegible
  default : ∀ l ∈ d.default?, l.IsWritable ∧ l.depth ≤ Document.deepestNesting
  directives : ∀ a ∈ d.directives, a.IsWritable

structure FieldDefinition.IsWritable (f : FieldDefinition Unit) : Prop where
  name : isName f.name = true
  arguments : ∀ a ∈ f.arguments, a.IsWritable
  type : f.type.IsLegible
  directives : ∀ a ∈ f.directives, a.IsWritable

structure EnumValueDefinition.IsWritable (v : EnumValueDefinition Unit) : Prop where
  name : isName v.name = true
  unreserved : v.name ∉ Parser.reservedWords
  directives : ∀ a ∈ v.directives, a.IsWritable

end Writable

namespace Text

theorem indentAfterNewlines_of_noBreak {s : String} (h : '\n' ∉ s.toList) (indent : String) :
    indentAfterNewlines indent s = s := by
  have hkept : ∀ c ∈ s.toList, (if c = '\n' then '\n' :: indent.toList else [c]) = [c] := by
    intro c hc
    rw [if_neg]
    rintro rfl
    exact h hc
  rw [indentAfterNewlines, List.flatMap_congr hkept]
  simp

theorem noBreak_quote (s : String) : '\n' ∉ (quote s).toList := by
  rw [quote, String.toList_ofList, List.cons_append, List.mem_cons, List.mem_append]
  rintro (h | h | h)
  · cases h
  · obtain ⟨c, -, hc⟩ := List.mem_flatMap.mp h
    exact noBreak_escapeChar c hc
  · cases List.mem_singleton.mp h

end Text

namespace Parser
variable {cs rest : List Char}

/-- What a description is read as. -/
def descriptionToken (d : String) : Lexeme := .string d (Text.fitsBlock d)

section Descriptions
variable {indent : String}

theorem separators_of_blanks (hindent : ∀ c ∈ indent.toList, Text.isBlankChar c = true) :
    ∀ c ∈ indent.toList, isSeparator c = true := by
  intro c hc
  have hblank := hindent c hc
  simp only [Text.isBlankChar, Bool.or_eq_true, beq_iff_eq] at hblank
  rcases hblank with rfl | rfl <;> decide

theorem printDescription_some (d indent : String) (first : Bool) :
    printDescription (some d) indent first
      = ((if indent != "" && !first then "\n" else "") ++ indent)
        ++ Text.indentAfterNewlines indent (if Text.fitsBlock d then Text.layoutBlock d else Text.quote d)
        ++ "\n" := rfl

theorem starts_written (hindent : ∀ c ∈ indent.toList, Text.isBlankChar c = true) (d : String)
    (hrest : Apart rest) :
    Starts ((Text.indentAfterNewlines indent
        (if Text.fitsBlock d then Text.layoutBlock d else Text.quote d)).toList ++ rest)
      (descriptionToken d) rest := by
  rw [descriptionToken]
  cases hfits : Text.fitsBlock d with
  | true =>
    rw [if_pos rfl]
    exact starts_layoutBlock (Text.heldByBlock_of_fitsBlock hfits) hindent rest
  | false =>
    rw [if_neg Bool.false_ne_true, Text.indentAfterNewlines_of_noBreak (Text.noBreak_quote d)]
    exact starts_quote d hrest

theorem opens_written (hindent : ∀ c ∈ indent.toList, Text.isBlankChar c = true) (d : String) :
    Opens (Text.indentAfterNewlines indent
      (if Text.fitsBlock d then Text.layoutBlock d else Text.quote d)) := by
  cases hfits : Text.fitsBlock d with
  | true =>
    rw [if_pos rfl]
    exact opens_block (Text.heldByBlock_of_fitsBlock hfits) hindent
  | false =>
    rw [if_neg Bool.false_ne_true, Text.indentAfterNewlines_of_noBreak (Text.noBreak_quote d)]
    exact opens_quote d

theorem separators_before (hindent : ∀ c ∈ indent.toList, Text.isBlankChar c = true) (first : Bool) :
    ∀ c ∈ ((if indent != "" && !first then "\n" else "") ++ indent).toList, isSeparator c = true := by
  have hbreak : ∀ b : Bool, ∀ c ∈ (if b then "\n" else "").toList, isSeparator c = true :=
    fun b => separators_of_all (by cases b <;> decide)
  intro c hc
  rw [String.toList_append] at hc
  rcases List.mem_append.mp hc with hc | hc
  · exact hbreak _ c hc
  · exact separators_of_blanks hindent c hc

theorem starts_description (hindent : ∀ c ∈ indent.toList, Text.isBlankChar c = true) (d : String)
    (first : Bool) (rest : List Char) :
    Starts ((printDescription (some d) indent first).toList ++ rest) (descriptionToken d)
      ('\n' :: rest) := by
  have hstarts := (starts_written hindent d (apart_separator (c := '\n') rfl rest)).separators
    (separators_before hindent first)
  rw [printDescription_some, String.toList_append, String.toList_append, List.append_assoc,
    List.append_assoc]
  exact hstarts

theorem takes_description (hindent : ∀ c ∈ indent.toList, Text.isBlankChar c = true)
    (d : Option String) (first : Bool) {n : String} (hrest : Token.front rest = .name n) :
    Takes description ((printDescription d indent first).toList ++ rest) d rest := by
  cases d with
  | none =>
    show Takes description rest none rest
    refine (takes_front _).bind ?_
    rw [hrest]
    exact takes_pure none rest
  | some d =>
    refine (takes_front _).bind ?_
    have hstarts := starts_description hindent d first rest
    have hsound : Sound ('\n' :: rest) := by
      intro e he
      rw [front_separator (by decide), hrest] at he
      cases he
    rw [hstarts.front_eq]
    exact ((takes_advance hstarts hsound).leave newline_separates).bind (takes_pure _ _)

theorem opens_description (hindent : ∀ c ∈ indent.toList, Text.isBlankChar c = true)
    (d : Option String) (first : Bool) {b : String} (hb : Opens b) :
    Opens (printDescription d indent first ++ b) := by
  cases d with
  | none => rwa [printDescription, String.empty_append]
  | some d =>
    have happart : Apart ("\n" ++ b).toList := by
      rw [String.toList_append]
      exact apart_separator (c := '\n') rfl _
    have hne : "\n" ++ b ≠ "" := by
      rw [Ne, String.append_eq_empty_iff]
      exact fun h => absurd h.1 (by decide)
    rw [printDescription_some, String.append_assoc, String.append_assoc]
    exact ((opens_written hindent d).append (keepsApart_of_apart happart hne)).separators
      (separators_before hindent first)

end Descriptions

section Parts

theorem takes_nameBefore {P : Lexeme → Prop} {n : String} (hn : isName n = true)
    (hrest : Follows P rest) : Takes name (n.toList ++ rest) n rest :=
  takes_name (starts_name hn hrest.apart) hrest.sound

theorem takes_colon (h : Sound rest) : Takes (expect .colon) (": ".toList ++ rest) () rest := by
  have hsound : Sound (' ' :: rest) := by
    intro e he
    rw [front_separator (by decide)] at he
    exact h e he
  have hcolon : Starts (':' :: ' ' :: rest) (.punctuation .colon) (' ' :: rest) := starts_punctuation rfl
  exact (takes_expect hcolon hsound).leave blank_separates

theorem takes_legible {t : TypeRef} (ht : t.IsLegible) (hrest : Follows (· ≠ .punctuation .bang) rest) :
    Takes typeRef (t.text.toList ++ rest) t rest :=
  takes_typeRef t ht.writable _ ht.lists hrest

theorem starts_default (l : Literal Unit) (rest : List Char) :
    Starts ((defaultText (some l)).toList ++ rest) (.punctuation .equals)
      (' ' :: (l.print.toList ++ rest)) := by
  have hstarts : ∀ cs, Starts (' ' :: '=' :: cs) (.punctuation .equals) cs := fun _ =>
    (starts_punctuation rfl).separators blank_separates
  rw [defaultText, String.toList_append, List.append_assoc]
  exact hstarts _

theorem follows_default {P : Lexeme → Prop} (d : Option (Literal Unit))
    (hok : P (.punctuation .equals)) (h : Follows P rest) :
    Follows P ((defaultText d).toList ++ rest) := by
  cases d with
  | none => exact h
  | some l =>
    refine follows_of_starts (starts_default l rest) ?_ nofun hok
    rw [defaultText, String.toList_append, List.append_assoc]
    exact apart_separator (c := ' ') rfl _

theorem takes_default {d : Option (Literal Unit)}
    (hd : ∀ l ∈ d, l.IsWritable ∧ l.depth ≤ Document.deepestNesting)
    (hrest : Follows (· ≠ .punctuation .equals) rest) :
    Takes optionalDefault ((defaultText d).toList ++ rest) d rest := by
  cases d with
  | none => exact (takes_refuse hrest.front).bind (takes_pure none rest)
  | some l =>
    obtain ⟨hwritable, hdepth⟩ := hd l rfl
    have hvalue := (takes_literal l hwritable _ hdepth hrest.any).separators blank_separates
    have hsound : Sound (' ' :: (l.print.toList ++ rest)) := by
      intro e he
      rw [front_separator (by decide)] at he
      exact (opens_literal hwritable).sound hrest.apart e he
    exact (takes_accept (starts_default l rest) hsound).bind (hvalue.map some)

theorem front_label {n : String} (hn : isName n = true) (rest : List Char) :
    Token.front (n.toList ++ (": ".toList ++ rest)) = .name n :=
  (starts_name hn (apart_punctuation (c := ':') rfl _)).front_eq

theorem takes_label {n : String} (hn : isName n = true) (rest : List Char) :
    Takes name (n.toList ++ (": ".toList ++ rest)) n (": ".toList ++ rest) :=
  takes_nameBefore hn (follows_punctuation (c := ':') (P := fun _ => True) rfl trivial _)

theorem keepsApart_empty : KeepsApart "" := fun _ h => h

theorem KeepsApart.append {a b : String} (ha : KeepsApart a) (hb : KeepsApart b) :
    KeepsApart (a ++ b) := by
  intro cs hcs
  rw [String.toList_append, List.append_assoc]
  exact ha _ (hb cs hcs)

theorem keepsApart_colon (b : String) : KeepsApart (": " ++ b) := by
  intro cs _
  rw [String.toList_append, List.append_assoc]
  exact apart_punctuation (c := ':') rfl _

theorem keepsApart_applied (ds : List (Directive Unit)) : KeepsApart (printApplied ds) := by
  cases ds with
  | nil => exact keepsApart_empty
  | cons d ds =>
    intro cs _
    rw [printApplied_cons]
    simp only [String.toList_append, List.append_assoc]
    exact apart_separator (c := ' ') rfl _

theorem forall₂_printItems {α : Type} {item : Parser α} {close : Punctuation} {text : Bool → α → String}
    {as : List α} (h : ∀ a ∈ as, ∀ first, IsItem item close (text first a) a) :
    List.Forall₂ (IsItem item close) (printItems text as) as := by
  cases as with
  | nil => exact .nil
  | cons a as =>
    refine .cons (h a List.mem_cons_self true) ?_
    rw [List.forall₂_map_left_iff, List.forall₂_same]
    exact fun b hb => h b (List.mem_cons_of_mem a hb) false

section Inputs
variable {indent : String}

/-- What may stand behind an argument or an input field. -/
def BehindInput (l : Lexeme) : Prop :=
  l ≠ .punctuation .parenLeft ∧ l ≠ .punctuation .atSign ∧ l ≠ .punctuation .equals
    ∧ l ≠ .punctuation .bang

theorem takes_input {d : InputDefinition Unit} (h : d.IsWritable)
    (hindent : ∀ c ∈ indent.toList, Text.isBlankChar c = true) (first : Bool)
    (hrest : Follows BehindInput rest) :
    Takes inputDefinition ((d.lined indent first).toList ++ rest) d rest := by
  have hdirectives := takes_directives h.directives (hrest.mono fun l hl => ⟨hl.1, hl.2.1⟩)
  have hdefault := takes_default h.default (follows_directives d.directives nofun
    (hrest.mono fun l hl => hl.2.2.1))
  have htype := takes_legible h.type (follows_default d.default? nofun
    (follows_directives d.directives nofun (hrest.mono fun l hl => hl.2.2.2)))
  have hsound := sound_text h.type.writable (follows_default d.default? trivial
    (follows_directives d.directives trivial hrest.any)).apart
  have hblanks := separators_of_blanks hindent
  rw [InputDefinition.lined, InputDefinition.text]
  simp only [String.toList_append, List.append_assoc]
  refine (takes_description hindent d.description first
    ((front_separators hblanks _).trans (front_label h.name _))).bind ?_
  exact ((takes_label h.name _).separators hblanks).bind ((takes_colon hsound).bind
    (htype.bind (hdefault.bind (hdirectives.bind (takes_pure _ _)))))

theorem opens_input {d : InputDefinition Unit} (h : d.IsWritable)
    (hindent : ∀ c ∈ indent.toList, Text.isBlankChar c = true) (first : Bool) :
    Opens (d.lined indent first) := by
  have hopens := (opens_named h.name (d.type.text ++ (defaultText d.default?
    ++ printApplied d.directives))).separators (separators_of_blanks hindent)
  rw [InputDefinition.lined, InputDefinition.text, String.append_assoc]
  simp only [String.append_assoc] at hopens ⊢
  exact opens_description hindent d.description first hopens

theorem isItem_input {close : Punctuation} (hclose : BehindInput (.punctuation close))
    {d : InputDefinition Unit} (h : d.IsWritable)
    (hindent : ∀ c ∈ indent.toList, Text.isBlankChar c = true) (first : Bool) :
    IsItem inputDefinition close (d.lined indent first) d where
  opens := opens_input h hindent first
  reads rest hrest := by
    refine takes_input h hindent first (hrest.mono ?_)
    rintro l (hl | rfl)
    · refine ⟨?_, ?_, ?_, ?_⟩ <;>
      · rintro rfl
        cases hl
    · exact hclose

theorem blanks_two : ∀ c ∈ ("  " : String).toList, Text.isBlankChar c = true :=
  List.all_eq_true.mp (by decide)

theorem blanks_indented (hindent : ∀ c ∈ indent.toList, Text.isBlankChar c = true) :
    ∀ c ∈ ("  " ++ indent).toList, Text.isBlankChar c = true := by
  rw [String.toList_append, List.forall_mem_append]
  exact ⟨blanks_two, hindent⟩

theorem takes_argumentDefinitions (hindent : ∀ c ∈ indent.toList, Text.isBlankChar c = true)
    {args : List (InputDefinition Unit)} (h : ∀ a ∈ args, a.IsWritable)
    (hrest : Follows (· ≠ .punctuation .parenLeft) rest) :
    Takes argumentDefinitions ((Document.argumentsText indent args).toList ++ rest) args rest := by
  have hbehind : BehindInput (.punctuation .parenRight) := ⟨nofun, nofun, nofun, nofun⟩
  have hopen : ∀ cs, Starts ('(' :: cs) (.punctuation .parenLeft) cs := fun _ => starts_punctuation rfl
  have hclose : Starts (')' :: rest) (.punctuation .parenRight) rest := starts_punctuation rfl
  rw [Document.argumentsText]
  by_cases hempty : args = []
  · subst hempty
    exact takes_noMany hrest.front
  rw [if_neg (by rwa [List.isEmpty_iff])]
  split
  · next hall =>
    have hitems : List.Forall₂ (IsItem inputDefinition .parenRight) (args.map (·.text)) args := by
      rw [List.forall₂_map_left_iff, List.forall₂_same]
      intro a ha
      have hitem := isItem_input hbehind (h a ha) blanks_none true
      have hnone : a.description = none := Option.isNone_iff_eq_none.mp (List.all_eq_true.mp hall a ha)
      rw [InputDefinition.lined, hnone] at hitem
      exact hitem
    have hseries := series_of_items rfl comma_between hitems
      (apart_punctuation (c := ')') rfl _) hclose hrest.sound
    simp only [String.toList_append, List.append_assoc]
    exact hseries.takes_optionalMany (hopen _) hempty
  · have hitems := forall₂_printItems fun a (ha : a ∈ args) first =>
      isItem_input hbehind (h a ha) (blanks_indented hindent) first
    have hclosing := (hclose.separators (separators_of_blanks hindent)).separators newline_separates
    have hseries := (series_of_items rfl newline_between hitems
      (apart_separator (c := '\n') rfl _) hclosing hrest.sound).separators newline_separates
    simp only [String.toList_append, List.append_assoc]
    exact hseries.takes_optionalMany (hopen _) hempty

theorem keepsApart_arguments (indent : String) (args : List (InputDefinition Unit)) :
    KeepsApart (Document.argumentsText indent args) := by
  have hopen : ∀ b, KeepsApart ("(" ++ b) := by
    intro b cs _
    rw [String.toList_append, List.append_assoc]
    exact apart_punctuation (c := '(') rfl _
  rw [Document.argumentsText]
  split
  · exact keepsApart_empty
  split
  · rw [String.append_assoc]
    exact hopen _
  · simp only [String.append_assoc]
    exact hopen ("\n" ++ _)

theorem follows_arguments {P : Lexeme → Prop} (indent : String) (args : List (InputDefinition Unit))
    (hok : P (.punctuation .parenLeft)) (h : Follows P rest) :
    Follows P ((Document.argumentsText indent args).toList ++ rest) := by
  rw [Document.argumentsText]
  split
  · exact h
  split
  · simp only [String.toList_append, List.append_assoc]
    exact follows_punctuation (c := '(') rfl hok _
  · simp only [String.toList_append, List.append_assoc]
    exact follows_punctuation (c := '(') rfl hok _

end Inputs

section Fields

theorem behind_member {close : Punctuation} (hclose : close = .braceRight) {l : Lexeme}
    (h : Between close l) :
    l ≠ .punctuation .parenLeft ∧ l ≠ .punctuation .atSign ∧ l ≠ .punctuation .bang := by
  subst hclose
  rcases h with h | rfl
  · refine ⟨?_, ?_, ?_⟩ <;>
    · rintro rfl
      cases h
  · exact ⟨nofun, nofun, nofun⟩

theorem isItem_field {f : FieldDefinition Unit} (h : f.IsWritable) (first : Bool) :
    IsItem fieldDefinition .braceRight (f.lined first) f where
  opens := by
    have hopens := ((opens_name h.name).append ((keepsApart_arguments "  " f.arguments).append
      (keepsApart_colon (f.type.text ++ printApplied f.directives)))).separators
      (separators_of_blanks blanks_two)
    simp only [FieldDefinition.lined, String.append_assoc]
    exact opens_description blanks_two f.description first hopens
  reads rest hrest := by
    have hbehind := hrest.mono fun l hl => behind_member rfl hl
    have hdirectives := takes_directives h.directives (hbehind.mono fun l hl => ⟨hl.1, hl.2.1⟩)
    have htype := takes_legible h.type (follows_directives f.directives nofun
      (hbehind.mono fun l hl => hl.2.2))
    have hsound := sound_text h.type.writable (follows_directives f.directives trivial hrest.any).apart
    have hblanks := separators_of_blanks blanks_two
    rw [FieldDefinition.lined]
    simp only [String.toList_append, List.append_assoc]
    have hlabel : ∀ {P : Lexeme → Prop}, P (.punctuation .colon) → ∀ cs,
        Follows P (": ".toList ++ cs) := fun hok cs => follows_punctuation (c := ':') rfl hok _
    have harguments := takes_argumentDefinitions blanks_two h.arguments
      (hlabel nofun (f.type.text.toList ++ ((printApplied f.directives).toList ++ rest)))
    have hbefore := follows_arguments (P := fun _ => True) "  " f.arguments trivial
      (hlabel trivial (f.type.text.toList ++ ((printApplied f.directives).toList ++ rest)))
    refine (takes_description blanks_two f.description first
      ((front_separators hblanks _).trans (starts_name h.name hbefore.apart).front_eq)).bind ?_
    exact ((takes_nameBefore h.name hbefore).separators hblanks).bind (harguments.bind
      ((takes_colon hsound).bind (htype.bind (hdirectives.bind (takes_pure _ _)))))

theorem isItem_enumValue {v : EnumValueDefinition Unit} (h : v.IsWritable) (first : Bool) :
    IsItem enumValueDefinition .braceRight (v.lined first) v where
  opens := by
    have hopens := ((opens_name h.name).append (keepsApart_applied v.directives)).separators
      (separators_of_blanks blanks_two)
    simp only [EnumValueDefinition.lined, String.append_assoc]
    exact opens_description blanks_two v.description first hopens
  reads rest hrest := by
    have hbehind := hrest.mono fun l hl => behind_member rfl hl
    have hdirectives := takes_directives h.directives (hbehind.mono fun l hl => ⟨hl.1, hl.2.1⟩)
    have hbefore := follows_directives (P := fun _ => True) v.directives trivial hrest.any
    have hblanks := separators_of_blanks blanks_two
    have hfront := (front_separators hblanks _).trans (starts_name h.name hbefore.apart).front_eq
    have hfree : ¬ (Lexeme.name v.name).value?.any reservedWords.contains = true := by
      rw [Lexeme.value?, Option.any_some, List.contains_eq_mem, decide_eq_true_eq]
      exact h.unreserved
    rw [EnumValueDefinition.lined]
    simp only [String.toList_append, List.append_assoc]
    refine (takes_description blanks_two v.description first hfront).bind ((takes_front _).bind ?_)
    rw [hfront]
    dsimp only
    rw [if_neg hfree]
    exact ((takes_nameBefore h.name hbefore).separators hblanks).bind
      (hdirectives.bind (takes_pure _ _))

end Fields

section Blocks

theorem takes_block {α : Type} {item : Parser α} {text : Bool → α → String} {as : List α}
    (h : ∀ a ∈ as, ∀ first, IsItem item .braceRight (text first a) a)
    (hrest : Follows (· ≠ .punctuation .braceLeft) rest) :
    Takes (optionalMany .braceLeft .braceRight item) ((printBlock (printItems text as)).toList ++ rest) as
      rest := by
  cases as with
  | nil => exact takes_noMany hrest.front
  | cons a as =>
    have hclose : Starts ('\n' :: '\x7d' :: rest) (.punctuation .braceRight) rest :=
      (starts_punctuation (c := '\x7d') rfl).separators newline_separates
    have hseries := (series_of_items rfl newline_between (forall₂_printItems h)
      (apart_separator (c := '\n') rfl _) hclose hrest.sound).separators newline_separates
    have hopen : ∀ cs, Starts (' ' :: '\x7b' :: cs) (.punctuation .braceLeft) cs := fun _ =>
      (starts_punctuation (c := '\x7b') rfl).separators blank_separates
    rw [printBlock, if_neg (by rw [List.isEmpty_iff]; exact List.cons_ne_nil _ _), braced]
    simp only [String.toList_append, List.append_assoc]
    exact hseries.takes_optionalMany (hopen _) (List.cons_ne_nil a as)

theorem follows_block {P : Lexeme → Prop} (texts : List String) (hok : P (.punctuation .braceLeft))
    (h : Follows P rest) : Follows P ((printBlock texts).toList ++ rest) := by
  rw [printBlock]
  split
  · exact h
  · simp only [String.toList_append, List.append_assoc, braced]
    have hstarts : ∀ cs, Starts (' ' :: '\x7b' :: cs) (.punctuation .braceLeft) cs := fun _ =>
      (starts_punctuation (c := '\x7b') rfl).separators blank_separates
    exact follows_of_starts (hstarts _) (apart_separator (c := ' ') rfl _) (fun _ h => by cases h) hok

end Blocks
end Parts
end Parser
end Subgraph
