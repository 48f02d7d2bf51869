import Subgraph.Proofs.MemberText

/-!
# Documents read back

The text of a document of type definitions, laid out as schemas are printed, is read as the document that
it was written for.
-/

namespace Subgraph
open Federation Token

section Texts

/-- The word that a definition of a type starts with. -/
def TypeBody.word : TypeBody Unit → String
  | .scalar => "scalar"
  | .object .. => "type"
  | .interface .. => "interface"
  | .union _ => "union"
  | .enum _ => "enum"
  | .input _ => "input"

/-- What stands behind the name of a type. -/
def TypeDefinition.tail (d : TypeDefinition Unit) : String :=
  match d.body with
  | .scalar => printApplied d.directives
  | .object is fs =>
    printInterfaces is ++ printApplied d.directives ++ printBlock (printItems FieldDefinition.lined fs)
  | .interface is fs =>
    printInterfaces is ++ printApplied d.directives ++ printBlock (printItems FieldDefinition.lined fs)
  | .union ms =>
    printApplied d.directives ++ if ms.isEmpty then "" else " = " ++ " | ".intercalate ms
  | .enum vs => printApplied d.directives ++ printBlock (printItems EnumValueDefinition.lined vs)
  | .input fs =>
    printApplied d.directives ++ printBlock (printItems (InputDefinition.lined "  ") fs)

def TypeDefinition.text (d : TypeDefinition Unit) : String :=
  d.body.word ++ " " ++ d.name ++ d.tail

def DirectiveDefinition.text (d : DirectiveDefinition Unit) : String :=
  "directive @" ++ d.name ++ Document.argumentsText "" d.arguments ++ printRepeatable d.repeatable
    ++ " on " ++ " | ".intercalate d.locations

def operationText (o : OperationKind × String) : String := "  " ++ o.1.name ++ ": " ++ o.2

def operationsText (os : List (OperationKind × String)) : String :=
  braced ("\n" ++ "\n".intercalate (os.map operationText) ++ "\n")

/-- The text of a definition that belongs to a schema. -/
def Definition.text : Definition Unit → String
  | .schema description d => printDescription description "" true ++ "schema "
      ++ operationsText d.operations
  | .directive d => printDescription d.description "" true ++ d.text
  | .type description d => printDescription description "" true ++ d.text
  | _ => ""

def Document.text (doc : Document Unit) : String :=
  "\n\n".intercalate (doc.map Definition.text) ++ "\n"

end Texts

section Writable

def TypeBody.IsWritable : TypeBody Unit → Prop
  | .scalar => True
  | .object is fs => (∀ n ∈ is, isName n = true) ∧ ∀ f ∈ fs, f.IsWritable
  | .interface is fs => (∀ n ∈ is, isName n = true) ∧ ∀ f ∈ fs, f.IsWritable
  | .union ms => ∀ n ∈ ms, isName n = true
  | .enum vs => ∀ v ∈ vs, v.IsWritable
  | .input fs => ∀ f ∈ fs, f.IsWritable

structure TypeDefinition.IsWritable (d : TypeDefinition Unit) : Prop where
  name : isName d.name = true
  directives : ∀ a ∈ d.directives, a.IsWritable
  body : d.body.IsWritable

structure DirectiveDefinition.IsWritable (d : DirectiveDefinition Unit) : Prop where
  name : isName d.name = true
  arguments : ∀ a ∈ d.arguments, a.IsWritable
  some : d.locations ≠ []
  locations : ∀ n ∈ d.locations, n ∈ Parser.directiveLocations

structure SchemaDefinition.IsWritable (d : SchemaDefinition Unit) : Prop where
  plain : d.directives = []
  some : d.operations ≠ []
  names : ∀ o ∈ d.operations, isName o.2 = true

/-- A definition of a schema, a directive or a type that can be written. -/
def Definition.IsWritable : Definition Unit → Prop
  | .schema _ d => d.IsWritable
  | .directive d => d.IsWritable
  | .type _ d => d.IsWritable
  | _ => False

end Writable

namespace Parser
variable {cs rest : List Char}

/-- What may stand behind a definition: the end, a description, or the first word of another one. -/
def BehindDefinition (l : Lexeme) : Prop := l ≠ .name "implements" ∧ ∀ p, l ≠ .punctuation p

section Names
variable {item : Parser String} {mark : Punctuation}

theorem Chain.separators {α : Type} {item : Parser α} {as : List α} {s : List Char}
    (hss : ∀ c ∈ s, isSeparator c = true) (h : Chain item mark cs as rest) :
    Chain item mark (s ++ cs) as rest := by
  cases h with
  | last takes ends => exact .last (takes.separators hss) ends
  | cons takes marks sound more => exact .cons (takes.separators hss) marks sound more

theorem apart_spaced {s : String} {c : Char} (h : s.toList = [' ', c, ' '])
    (cs : List Char) : Apart (s.toList ++ cs) := by
  rw [h]
  exact apart_separator (c := ' ') rfl _

theorem front_names {s n : String} {ns : List String} (hn : isName n = true)
    (hseparator : ∀ cs, Apart (s.toList ++ cs)) (hrest : Apart rest) :
    Token.front ((s.intercalate (n :: ns)).toList ++ rest) = .name n := by
  cases ns with
  | nil =>
    rw [String.intercalate_singleton]
    exact (starts_name hn hrest).front_eq
  | cons m ns =>
    rw [String.intercalate_cons_cons]
    simp only [String.toList_append, List.append_assoc]
    exact (starts_name hn (hseparator _)).front_eq

theorem chain_of_names {s : String} {c : Char} (hc : Punctuation.ofChar? c = some mark)
    (hseparator : s.toList = [' ', c, ' ']) {ns : List String} (hne : ns ≠ [])
    (hnames : ∀ n ∈ ns, isName n = true)
    (hitem : ∀ n ∈ ns, ∀ {rest : List Char}, Follows (fun _ => True) rest →
      Takes item (n.toList ++ rest) n rest)
    (hrest : Follows (· ≠ .punctuation mark) rest) :
    Chain item mark ((s.intercalate ns).toList ++ rest) ns rest := by
  have hapart := apart_spaced hseparator
  induction ns with
  | nil => exact absurd rfl hne
  | cons n ns ih =>
    cases ns with
    | nil =>
      rw [String.intercalate_singleton]
      exact .last (hitem n List.mem_cons_self hrest.any) hrest.front
    | cons m ns =>
      have hmore := ih (List.cons_ne_nil m ns) (fun k hk => hnames k (List.mem_cons_of_mem n hk))
        fun k hk => hitem k (List.mem_cons_of_mem n hk)
      have hm : isName m = true := hnames m (List.mem_cons_of_mem n List.mem_cons_self)
      have hfront : Token.front ((s.intercalate (m :: ns)).toList ++ rest) = .name m :=
        front_names hm hapart hrest.apart
      have hsound : Sound (' ' :: ((s.intercalate (m :: ns)).toList ++ rest)) := by
        intro e he
        rw [front_separator (by decide), hfront] at he
        cases he
      have hmark : Starts
          (s.toList ++ ((s.intercalate (m :: ns)).toList ++ rest))
          (.punctuation mark) (' ' :: ((s.intercalate (m :: ns)).toList ++ rest)) := by
        rw [hseparator]
        exact (starts_punctuation hc).separators blank_separates
      rw [String.intercalate_cons_cons]
      simp only [String.toList_append, List.append_assoc]
      exact .cons (hitem n List.mem_cons_self (follows_of_starts hmark (hapart _) nofun trivial)) hmark
        hsound (hmore.separators blank_separates)

theorem takes_names {s : String} {c : Char} (hc : Punctuation.ofChar? c = some mark)
    (hseparator : s.toList = [' ', c, ' ']) {ns : List String} (hne : ns ≠ [])
    (hnames : ∀ n ∈ ns, isName n = true)
    (hitem : ∀ n ∈ ns, ∀ {rest : List Char}, Follows (fun _ => True) rest →
      Takes item (n.toList ++ rest) n rest)
    (hrest : Follows (· ≠ .punctuation mark) rest) :
    Takes (separated mark item) (' ' :: ((s.intercalate ns).toList ++ rest)) ns rest := by
  have hapart := apart_spaced hseparator
  have hfront : Token.front ((s.intercalate ns).toList ++ rest) ≠ .punctuation mark := by
    obtain ⟨n, ns, rfl⟩ := List.exists_cons_of_ne_nil hne
    rw [front_names (hnames n List.mem_cons_self) hapart hrest.apart]
    exact nofun
  exact ((chain_of_names hc hseparator hne hnames hitem hrest).takes_separated hfront).separators
    blank_separates

theorem sound_names {s : String} {c : Char} (hseparator : s.toList = [' ', c, ' '])
    {ns : List String} (hne : ns ≠ []) (hnames : ∀ n ∈ ns, isName n = true) (hrest : Apart rest) :
    Sound (' ' :: ((s.intercalate ns).toList ++ rest)) := by
  have hapart := apart_spaced hseparator
  obtain ⟨n, ns, rfl⟩ := List.exists_cons_of_ne_nil hne
  intro e he
  rw [front_separator (by decide), front_names (hnames n List.mem_cons_self) hapart hrest] at he
  cases he

theorem takes_keyword {w : String} (hw : isName w = true) (h : Sound (' ' :: rest)) :
    Takes (expectWord w) (w.toList ++ ' ' :: rest) () rest :=
  (takes_expectWord (starts_name hw (apart_separator (c := ' ') rfl rest)) h).leave blank_separates

theorem takes_interfaces {is : List String} (h : ∀ n ∈ is, isName n = true)
    (hrest : Follows (fun l => l ≠ .name "implements" ∧ l ≠ .punctuation .ampersand) rest) :
    Takes interfaces ((printInterfaces is).toList ++ rest) is rest := by
  rw [printInterfaces]
  by_cases hempty : is = []
  · subst hempty
    exact (takes_refuseWord hrest.front.1).bind (takes_pure [] rest)
  · have hmore := hrest.mono fun l hl => hl.2
    have hsound := sound_names (s := " & ") rfl hempty h hrest.apart
    have hnames := takes_names (s := " & ") (c := '&') rfl rfl hempty h
      (fun n hn _ hrest => takes_nameBefore (h n hn) hrest) hmore
    have hword := (takes_acceptWord (starts_name (n := "implements") (by decide)
      (apart_separator (c := ' ') rfl _)) hsound).separators blank_separates
    rw [if_neg (by rwa [List.isEmpty_iff])]
    simp only [String.toList_append, List.append_assoc]
    exact hword.bind hnames

theorem follows_interfaces {P : Lexeme → Prop} (is : List String) (hok : P (.name "implements"))
    (h : Follows P rest) : Follows P ((printInterfaces is).toList ++ rest) := by
  rw [printInterfaces]
  split
  · exact h
  · have hword : ∀ cs, Starts (' ' :: ("implements".toList ++ ' ' :: cs)) (.name "implements") (' ' :: cs) :=
      fun cs => (starts_name (n := "implements") (by decide)
        (apart_separator (c := ' ') rfl _)).separators blank_separates
    simp only [String.toList_append, List.append_assoc]
    exact follows_of_starts (hword _) (apart_separator (c := ' ') rfl _) nofun hok

end Names

section Types

theorem follows_head {P : Lexeme → Prop} (ds : List (Directive Unit)) (texts : List String)
    (hdirective : P (.punctuation .atSign)) (hblock : P (.punctuation .braceLeft))
    (h : Follows BehindDefinition rest) (hok : ∀ l, BehindDefinition l → P l) :
    Follows P ((printApplied ds).toList ++ ((printBlock texts).toList ++ rest)) :=
  follows_directives ds hdirective (follows_block texts hblock (h.mono hok))

theorem behind_directives {l : Lexeme} (h : BehindDefinition l) : BehindDirectives l := ⟨h.2 _, h.2 _⟩

theorem takes_head {α : Type} {P : Lexeme → Prop} {w n : String} (hw : isName w = true)
    (hn : isName n = true) (hcs : Follows P cs) {f : String → Parser α} {a : α}
    (hf : Takes (f n) cs a rest) :
    Takes (do
      expectWord w
      f (← name)) (w.toList ++ ' ' :: (n.toList ++ cs)) a rest := by
  have hsound : Sound (' ' :: (n.toList ++ cs)) := by
    intro e he
    rw [front_separator (by decide)] at he
    exact (opens_name hn).sound hcs.apart e he
  exact (takes_keyword hw hsound).bind ((takes_nameBefore hn hcs).bind hf)

theorem takes_fields {α : Type} {is : List String} {ds : List (Directive Unit)}
    {fs : List (FieldDefinition Unit)} (his : ∀ n ∈ is, isName n = true)
    (hds : ∀ d ∈ ds, d.IsWritable) (hfs : ∀ f ∈ fs, f.IsWritable)
    (hrest : Follows BehindDefinition rest)
    (f : List String → List (Directive Unit) → List (FieldDefinition Unit) → α) :
    Takes (do
      let is ← interfaces
      let ds ← directives true
      return f is ds (← fieldDefinitions))
      ((printInterfaces is).toList ++ ((printApplied ds).toList
        ++ ((printBlock (printItems FieldDefinition.lined fs)).toList ++ rest))) (f is ds fs) rest := by
  have hblock : Takes fieldDefinitions
      ((printBlock (printItems FieldDefinition.lined fs)).toList ++ rest) fs rest :=
    takes_block (fun f hf first => isItem_field (hfs f hf) first) (hrest.mono fun l hl => hl.2 _)
  have hdirectives := takes_directives hds (follows_block (printItems FieldDefinition.lined fs) ⟨nofun, nofun⟩
    (hrest.mono fun _ => behind_directives))
  have hinterfaces := takes_interfaces his (follows_head ds (printItems FieldDefinition.lined fs)
    ⟨nofun, nofun⟩ ⟨nofun, nofun⟩ hrest fun l hl => ⟨hl.1, hl.2 _⟩)
  exact hinterfaces.bind (hdirectives.bind (hblock.bind (takes_pure _ _)))

theorem takes_members {α β : Type} {item : Parser β} {text : Bool → β → String}
    {ds : List (Directive Unit)} {xs : List β} (hds : ∀ d ∈ ds, d.IsWritable)
    (hxs : ∀ x ∈ xs, ∀ first, IsItem item .braceRight (text first x) x)
    (hrest : Follows BehindDefinition rest) (f : List (Directive Unit) → List β → α) :
    Takes (do
      let ds ← directives true
      return f ds (← optionalMany .braceLeft .braceRight item))
      ((printApplied ds).toList ++ ((printBlock (printItems text xs)).toList ++ rest)) (f ds xs) rest := by
  have hblock := takes_block hxs (hrest.mono fun l hl => hl.2 _)
  have hdirectives := takes_directives hds (follows_block (printItems text xs) ⟨nofun, nofun⟩
    (hrest.mono fun _ => behind_directives))
  exact hdirectives.bind (hblock.bind (takes_pure _ _))

theorem takes_union {α : Type} {ds : List (Directive Unit)} {ms : List String}
    (hds : ∀ d ∈ ds, d.IsWritable) (hms : ∀ n ∈ ms, isName n = true)
    (hrest : Follows BehindDefinition rest) (f : List (Directive Unit) → List String → α) :
    Takes (do
      let ds ← directives true
      return f ds (← unionMembers))
      ((printApplied ds).toList
        ++ ((if ms.isEmpty then "" else " = " ++ " | ".intercalate ms).toList ++ rest)) (f ds ms) rest := by
  by_cases hempty : ms = []
  · subst hempty
    have hdirectives := takes_directives hds (hrest.mono fun _ => behind_directives)
    exact hdirectives.bind (((takes_refuse (hrest.front.2 _)).bind (takes_pure [] rest)).bind
      (takes_pure _ _))
  · have hsound := sound_names (s := " | ") rfl hempty hms hrest.apart
    have hnames := takes_names (s := " | ") (c := '|') rfl rfl hempty hms
      (fun n hn _ hrest => takes_nameBefore (hms n hn) hrest) (hrest.mono fun l hl => hl.2 _)
    have hequals : ∀ cs, Starts (' ' :: '=' :: cs) (.punctuation .equals) cs := fun cs =>
      (starts_punctuation (c := '=') rfl).separators blank_separates
    have hmembers : Takes unionMembers _ ms rest := (takes_accept (hequals _) hsound).bind hnames
    have hdirectives := takes_directives hds
      (follows_of_starts (hequals (' ' :: ((" | ".intercalate ms).toList ++ rest)))
        (apart_separator (c := ' ') rfl _) nofun ⟨nofun, nofun⟩)
    rw [if_neg (by rwa [List.isEmpty_iff])]
    simp only [String.toList_append, List.append_assoc]
    exact hdirectives.bind (hmembers.bind (takes_pure _ _))

theorem word_mem (b : TypeBody Unit) : b.word ∈ typeWords := by
  cases b <;> simp [TypeBody.word, typeWords]

theorem isName_word (b : TypeBody Unit) : isName b.word = true := by
  have hall : ∀ w ∈ typeWords, isName w = true := by decide
  exact hall _ (word_mem b)

theorem starts_typeDefinition (d : TypeDefinition Unit) (rest : List Char) :
    Starts (d.text.toList ++ rest) (.name d.body.word)
      (' ' :: (d.name.toList ++ (d.tail.toList ++ rest))) := by
  simp only [TypeDefinition.text, String.toList_append, List.append_assoc]
  exact starts_name (isName_word d.body) (apart_separator (c := ' ') rfl _)

theorem takes_typeDefinition {d : TypeDefinition Unit} (h : d.IsWritable)
    (hrest : Follows BehindDefinition rest) :
    Takes (typeDefinition () d.body.word) (d.text.toList ++ rest) d rest := by
  obtain ⟨⟨⟩, n, ds, body⟩ := d
  have hn : isName n = true := h.name
  have hds : ∀ d ∈ ds, d.IsWritable := h.directives
  have hbody := h.body
  have hhead : ∀ texts, Follows (fun _ => True)
      ((printApplied ds).toList ++ ((printBlock texts).toList ++ rest)) := fun texts =>
    follows_head ds texts trivial trivial hrest fun _ _ => trivial
  simp only [TypeDefinition.text, TypeDefinition.tail]
  cases body with
  | scalar =>
    simp only [String.toList_append, List.append_assoc, TypeBody.word, typeDefinition]
    exact takes_head (by decide) hn (follows_directives ds trivial hrest.any)
      ((takes_directives hds (hrest.mono fun _ => behind_directives)).bind (takes_pure _ _))
  | object is fs =>
    have hfields := takes_fields hbody.1 hds hbody.2 hrest fun is ds fs =>
      (⟨(), n, ds, .object is fs⟩ : TypeDefinition Unit)
    simp only [String.toList_append, List.append_assoc, TypeBody.word, typeDefinition]
    exact takes_head (by decide) hn (follows_interfaces is trivial (hhead _)) hfields
  | interface is fs =>
    have hfields := takes_fields hbody.1 hds hbody.2 hrest fun is ds fs =>
      (⟨(), n, ds, .interface is fs⟩ : TypeDefinition Unit)
    simp only [String.toList_append, List.append_assoc, TypeBody.word, typeDefinition]
    exact takes_head (by decide) hn (follows_interfaces is trivial (hhead _)) hfields
  | union ms =>
    have hmembers := takes_union hds hbody hrest fun ds ms =>
      (⟨(), n, ds, .union ms⟩ : TypeDefinition Unit)
    have hequals : Follows (fun _ => True)
        ((if ms.isEmpty then "" else " = " ++ " | ".intercalate ms).toList ++ rest) := by
      split
      · exact hrest.any
      · simp only [String.toList_append, List.append_assoc]
        exact follows_of_starts ((starts_punctuation (c := '=') (p := .equals) rfl).separators
          blank_separates) (apart_separator (c := ' ') rfl _) nofun trivial
    simp only [String.toList_append, List.append_assoc, TypeBody.word, typeDefinition]
    exact takes_head (by decide) hn (follows_directives ds trivial hequals) hmembers
  | enum vs =>
    have hmembers := takes_members hds (fun v hv first => isItem_enumValue (hbody v hv) first) hrest
      fun ds vs => (⟨(), n, ds, .enum vs⟩ : TypeDefinition Unit)
    simp only [String.toList_append, List.append_assoc, TypeBody.word, typeDefinition]
    exact takes_head (by decide) hn (hhead _) hmembers
  | input fs =>
    have hbehind : BehindInput (.punctuation .braceRight) := ⟨nofun, nofun, nofun, nofun⟩
    have hmembers := takes_members hds
      (fun f hf first => isItem_input hbehind (hbody f hf) blanks_two first) hrest
      fun ds fs => (⟨(), n, ds, .input fs⟩ : TypeDefinition Unit)
    simp only [String.toList_append, List.append_assoc, TypeBody.word, typeDefinition]
    exact takes_head (by decide) hn (hhead _) hmembers

end Types

section Directives

theorem takes_location {n : String} (h : n ∈ directiveLocations)
    (hrest : Follows (fun _ => True) rest) : Takes directiveLocation (n.toList ++ rest) n rest := by
  have hname : isName n = true := by
    revert n
    decide
  refine takes_position fun p => (takes_nameBefore hname hrest).bind ?_
  rw [if_pos (List.contains_iff_mem.mpr h)]
  exact takes_pure n rest

theorem starts_repeatable (cs : List Char) (h : Apart cs) :
    Starts (" repeatable".toList ++ cs) (.name "repeatable") cs :=
  (starts_name (n := "repeatable") (by decide) h).separators blank_separates

theorem takes_repeatable (repeatable : Bool) (hrest : Follows (· = .name "on") rest) :
    Takes (acceptWord "repeatable") ((printRepeatable repeatable).toList ++ rest) repeatable rest := by
  cases repeatable with
  | false =>
    refine takes_refuseWord ?_
    show Token.front rest ≠ _
    rw [hrest.front]
    decide
  | true => exact takes_acceptWord (starts_repeatable rest hrest.apart) hrest.sound

theorem follows_repeatable {P : Lexeme → Prop} (repeatable : Bool) (hok : P (.name "repeatable"))
    (h : Follows P rest) : Follows P ((printRepeatable repeatable).toList ++ rest) := by
  cases repeatable with
  | false => exact h
  | true =>
    exact follows_of_starts (starts_repeatable rest h.apart) (apart_separator (c := ' ') rfl _) nofun hok

theorem starts_directiveDefinition (d : DirectiveDefinition Unit) (rest : List Char) :
    Starts (d.text.toList ++ rest) (.name "directive") (' ' :: '@' :: (d.name.toList ++
      ((Document.argumentsText "" d.arguments).toList ++ ((printRepeatable d.repeatable).toList ++
        (" on ".toList ++ ((" | ".intercalate d.locations).toList ++ rest)))))) := by
  simp only [DirectiveDefinition.text, String.toList_append, List.append_assoc]
  exact starts_name (n := "directive") (by decide) (apart_separator (c := ' ') rfl _)

theorem takes_directiveDefinition {d : DirectiveDefinition Unit} (h : d.IsWritable)
    (hrest : Follows BehindDefinition rest) :
    Takes (directiveDefinition () d.description) (d.text.toList ++ rest) d rest := by
  obtain ⟨⟨⟩, description, n, args, repeatable, locations⟩ := d
  have hn : isName n = true := h.name
  have hargs : ∀ a ∈ args, a.IsWritable := h.arguments
  have hsome : locations ≠ [] := h.some
  have hlocations : ∀ n ∈ locations, n ∈ directiveLocations := h.locations
  have hnames : ∀ n ∈ locations, isName n = true := by
    have hall : ∀ n ∈ directiveLocations, isName n = true := by decide
    exact fun n hn => hall n (hlocations n hn)
  have hsound := sound_names (s := " | ") rfl hsome hnames hrest.apart
  have hmembers := takes_names (s := " | ") (c := '|') rfl rfl hsome
    hnames (fun n hn _ hrest => takes_location (hlocations n hn) hrest) (hrest.mono fun l hl => hl.2 _)
  have hon : Starts (" on ".toList ++ ((" | ".intercalate locations).toList ++ rest)) (.name "on")
      (' ' :: ((" | ".intercalate locations).toList ++ rest)) :=
    (starts_name (n := "on") (by decide) (apart_separator (c := ' ') rfl _)).separators blank_separates
  have honFollows : Follows (· = .name "on")
      (" on ".toList ++ ((" | ".intercalate locations).toList ++ rest)) :=
    follows_of_starts hon (apart_separator (c := ' ') rfl _) nofun rfl
  have honWord := takes_expectWord hon hsound
  have hrepeatable := takes_repeatable repeatable honFollows
  have hfollows := follows_repeatable (P := (· ≠ .punctuation .parenLeft)) repeatable nofun
    (honFollows.mono (by rintro l rfl; exact nofun))
  have harguments := takes_argumentDefinitions blanks_none hargs hfollows
  have hbefore := follows_arguments (P := fun _ => True) "" args trivial hfollows.any
  have hname := takes_nameBefore hn hbefore
  have hatSign : ∀ cs, Starts ('@' :: cs) (.punctuation .atSign) cs := fun _ => starts_punctuation rfl
  have hword : ∀ cs, Takes (expectWord "directive") ("directive".toList ++ ' ' :: '@' :: cs) ()
      ('@' :: cs) := fun cs =>
    takes_keyword (by decide) (sound_of_starts ((hatSign cs).separators blank_separates) nofun)
  simp only [DirectiveDefinition.text, String.toList_append, List.append_assoc]
  exact (hword _).bind ((takes_expect (hatSign _) ((opens_name hn).sound hbefore.apart)).bind
    (hname.bind (harguments.bind (hrepeatable.bind (honWord.bind (hmembers.bind (takes_pure _ _)))))))

end Directives

section Definitions

theorem takes_operationKind {k : OperationKind} (hrest : Follows (fun _ => True) rest) :
    Takes operationKind (k.name.toList ++ rest) k rest := by
  have hname : isName k.name = true := by cases k <;> decide
  have hstarts := starts_name hname hrest.apart
  refine (takes_front _).bind ?_
  rw [hstarts.front_eq]
  refine takes_position fun p => (takes_advance hstarts hrest.sound).bind ?_
  cases k <;> exact takes_pure _ _

theorem isItem_operation {o : OperationKind × String} (h : isName o.2 = true) :
    IsItem operationType .braceRight (operationText o) o where
  opens := by
    have hname : isName o.1.name = true := by cases o.1 <;> decide
    have hopens := (opens_named hname o.2).separators (separators_of_blanks blanks_two)
    simp only [operationText, String.append_assoc] at hopens ⊢
    exact hopens
  reads rest hrest := by
    have hcolon : ∀ cs, Follows (fun _ => True) (": ".toList ++ cs) := fun cs =>
      follows_punctuation (c := ':') rfl trivial _
    have hkind := (takes_operationKind (k := o.1) (hcolon (o.2.toList ++ rest))).separators
      (separators_of_blanks blanks_two)
    have hname := takes_nameBefore h hrest
    simp only [operationText, String.toList_append, List.append_assoc]
    exact hkind.bind ((takes_colon ((opens_name h).sound hrest.apart)).bind (hname.bind (takes_pure _ _)))

theorem takes_operations {os : List (OperationKind × String)} (hne : os ≠ [])
    (h : ∀ o ∈ os, isName o.2 = true) (hrest : Sound rest) :
    Takes (many .braceLeft .braceRight operationType)
      ((operationsText os).toList ++ rest) os rest := by
  have hitems : List.Forall₂ (IsItem operationType .braceRight) (os.map operationText) os := by
    rw [List.forall₂_map_left_iff, List.forall₂_same]
    exact fun o ho => isItem_operation (h o ho)
  have hclose : Starts ('\n' :: '\x7d' :: rest) (.punctuation .braceRight) rest :=
    (starts_punctuation (c := '\x7d') rfl).separators newline_separates
  have hseries := (series_of_items rfl newline_between hitems
    (apart_separator (c := '\n') rfl _) hclose hrest).separators newline_separates
  simp only [operationsText, braced, String.toList_append, List.append_assoc]
  exact hseries.takes_many (starts_punctuation (c := '\x7b') rfl) hne

theorem takes_key {α : Type} {description : Option String} {w : String} {body : List Char}
    (hword : Starts body (.name w) cs) {f : Token → Parser α} {a : α}
    (hf : ∀ p, Takes (f ⟨p, .name w⟩) ((printDescription description "" true).toList ++ body) a rest) :
    Takes (if (match Token.front ((printDescription description "" true).toList ++ body) with
        | .string .. => true
        | _ => false) = true then lookAhead >>= f else Parser.front >>= f)
      ((printDescription description "" true).toList ++ body) a rest := by
  cases description with
  | none =>
    have hfront : Token.front ((printDescription none "" true).toList ++ body) = .name w := hword.front_eq
    rw [hfront]
    refine takes_frontToken fun p => ?_
    rw [hfront]
    exact hf p
  | some d =>
    have hstarts := starts_description blanks_none d true body
    have hfront : Token.front ('\n' :: body) = .name w :=
      (front_separator (by decide) body).trans hword.front_eq
    have hsound : Sound ('\n' :: body) := by
      intro e he
      rw [hfront] at he
      cases he
    rw [hstarts.front_eq]
    refine takes_lookAhead hstarts hsound fun p => ?_
    rw [hfront]
    exact hf p

theorem follows_operations {P : Lexeme → Prop} (os : List (OperationKind × String))
    (hok : P (.punctuation .braceLeft)) (rest : List Char) :
    Follows P ((operationsText os).toList ++ rest) := by
  simp only [operationsText, braced, String.toList_append, List.append_assoc]
  exact follows_punctuation (c := '\x7b') rfl hok _

theorem takes_definition {d : Definition Unit} (h : d.IsWritable)
    (hrest : Follows BehindDefinition rest) : Takes definition (d.text.toList ++ rest) d rest := by
  cases d with
  | operation o => cases h
  | fragment f => cases h
  | extendSchema d => cases h
  | extendType d => cases h
  | schema description d =>
    obtain ⟨⟨⟩, ds, os⟩ := d
    obtain rfl : ds = [] := h.plain
    have hoperations : Takes (many .braceLeft .braceRight operationType)
        ((operationsText os).toList ++ rest) os rest := takes_operations h.some h.names hrest.sound
    have hfollows := follows_operations (P := BehindDirectives) os ⟨nofun, nofun⟩ rest
    have hdirectives : Takes (directives true) ((operationsText os).toList ++ rest) []
        ((operationsText os).toList ++ rest) :=
      takes_directives (fun d (hd : d ∈ []) => nomatch hd) hfollows
    have hword := takes_keyword (w := "schema") (by decide) (follows_separator (c := ' ')
      (P := fun _ => True) rfl hfollows.sound trivial).sound
    have hstarts : Starts ("schema ".toList ++ ((operationsText os).toList ++ rest)) (.name "schema")
        (' ' :: ((operationsText os).toList ++ rest)) :=
      starts_name (n := "schema") (by decide) (apart_separator (c := ' ') rfl _)
    simp only [Definition.text, String.toList_append, List.append_assoc]
    refine (takes_here _).bind ((takes_front _).bind (takes_key hstarts fun p => ?_))
    exact (takes_description blanks_none description true hstarts.front_eq).bind
      (hword.bind (hdirectives.bind (hoperations.bind (takes_pure _ _))))
  | directive d =>
    have hword := starts_directiveDefinition d rest
    simp only [Definition.text, String.toList_append, List.append_assoc]
    refine (takes_here _).bind ((takes_front _).bind (takes_key hword fun p => ?_))
    exact (takes_description blanks_none d.description true hword.front_eq).bind
      ((takes_directiveDefinition h hrest).bind (takes_pure _ _))
  | type description d =>
    have hstarts := starts_typeDefinition d rest
    have hmember : typeWords.contains d.body.word = true := List.contains_iff_mem.mpr (word_mem d.body)
    have hother : d.body.word ≠ "schema" := by cases d.body <;> simp [TypeBody.word]
    simp only [Definition.text, String.toList_append, List.append_assoc]
    refine (takes_here _).bind ((takes_front _).bind (takes_key hstarts fun p => ?_))
    dsimp only
    rw [if_neg hother, if_pos hmember]
    exact (takes_description blanks_none description true hstarts.front_eq).bind
      ((takes_typeDefinition h hrest).bind (takes_pure _ _))

theorem keepsApart_blank (b : String) : KeepsApart (" " ++ b) := by
  intro cs _
  rw [String.toList_append, List.append_assoc]
  exact apart_separator (c := ' ') rfl _

theorem text_definition {d : Definition Unit} (h : d.IsWritable) :
    ∃ description w b, d.text = printDescription description "" true ++ (w ++ (" " ++ b))
      ∧ isName w = true ∧ w ≠ "implements" := by
  cases d with
  | operation o => cases h
  | fragment f => cases h
  | extendSchema d => cases h
  | extendType d => cases h
  | schema description d =>
    exact ⟨description, "schema", operationsText d.operations, by rw [Definition.text, String.append_assoc]; rfl,
      by decide, by decide⟩
  | directive d =>
    refine ⟨d.description, "directive", "@" ++ d.name ++ Document.argumentsText "" d.arguments
      ++ printRepeatable d.repeatable ++ " on " ++ " | ".intercalate d.locations, ?_, by decide, by decide⟩
    simp only [Definition.text, DirectiveDefinition.text, String.append_assoc]
    rfl
  | type description d =>
    refine ⟨description, d.body.word, d.name ++ d.tail, ?_, isName_word d.body, ?_⟩
    · simp only [Definition.text, TypeDefinition.text, String.append_assoc]
    · intro heq
      exact absurd (heq ▸ word_mem d.body) (by decide)

theorem opens_definition {d : Definition Unit} (h : d.IsWritable) : Opens d.text := by
  obtain ⟨description, w, b, htext, hw, -⟩ := text_definition h
  rw [htext]
  exact opens_description (by simp) description true ((opens_name hw).append (keepsApart_blank b))

theorem behind_definition {d : Definition Unit} (h : d.IsWritable) (rest : List Char) :
    BehindDefinition (Token.front (d.text.toList ++ rest)) := by
  obtain ⟨description, w, b, htext, hw, hother⟩ := text_definition h
  have hword : Token.front ((w ++ (" " ++ b)).toList ++ rest) = .name w := by
    simp only [String.toList_append, List.append_assoc]
    exact (starts_name hw (apart_separator (c := ' ') rfl _)).front_eq
  rw [htext, String.toList_append, List.append_assoc]
  cases description with
  | none =>
    show BehindDefinition (Token.front ((w ++ (" " ++ b)).toList ++ rest))
    rw [hword]
    exact ⟨fun heq => hother (Lexeme.name.inj heq), nofun⟩
  | some d =>
    rw [(starts_description (by simp) d true _).front_eq]
    exact ⟨nofun, nofun⟩

theorem follows_text {e : Definition Unit} (he : e.IsWritable) (doc : Document Unit) :
    Follows BehindDefinition ('\n' :: '\n' :: (Document.text (e :: doc)).toList)
      ∧ Token.front ('\n' :: '\n' :: (Document.text (e :: doc)).toList) ≠ .finish := by
  obtain ⟨more, hmore, htext⟩ := intercalate_front newlines_between e.text
    (doc.map Definition.text) (apart_separator (c := '\n') rfl [])
  have hdocument : (Document.text (e :: doc)).toList = e.text.toList ++ more := by
    rw [Document.text, List.map_cons, String.toList_append]
    exact htext
  have hsound := (opens_definition he).sound hmore
  have hbehind := behind_definition he more
  rw [hdocument]
  constructor
  · refine follows_separator rfl (follows_separator (P := BehindDefinition) rfl hsound hbehind).sound ?_
    rwa [front_separator (by decide)]
  · rw [front_separator (by decide), front_separator (by decide)]
    intro heq
    have hopens := (opens_definition he).front more hmore
    rw [heq] at hopens
    cases hopens

theorem follows_end : Follows BehindDefinition ['\n'] where
  apart := apart_separator (c := '\n') rfl []
  sound := fun _ he => nomatch he
  front := ⟨nofun, nofun⟩

theorem takes_definitions {doc : Document Unit} (hne : doc ≠ []) (h : ∀ d ∈ doc, d.IsWritable)
    {fuel : Nat} (hfuel : count doc.text.toList ≤ fuel) :
    Takes (definitions fuel) doc.text.toList doc ['\n'] := by
  induction doc generalizing fuel with
  | nil => exact absurd rfl hne
  | cons d doc ih =>
    obtain ⟨fuel, rfl⟩ := Nat.exists_eq_succ_of_ne_zero
      (Nat.ne_zero_of_lt (Nat.lt_of_lt_of_le (count_pos _) hfuel))
    have hd := h d List.mem_cons_self
    cases doc with
    | nil =>
      simp only [Document.text, List.map_cons, List.map_nil, String.intercalate_singleton,
        String.toList_append]
      refine (takes_definition hd follows_end).bind ((takes_front _).bind ?_)
      exact takes_pure _ _
    | cons e doc =>
      have hmore := fun k hk => h k (List.mem_cons_of_mem d hk)
      obtain ⟨hrest, hfront⟩ := follows_text (hmore e List.mem_cons_self) doc
      have htext : (Document.text (d :: e :: doc)).toList
          = d.text.toList ++ '\n' :: '\n' :: (Document.text (e :: doc)).toList := by
        simp only [Document.text, List.map_cons, String.intercalate_cons_cons, String.toList_append,
          List.append_assoc]
        rfl
      -- The definition takes a token, so there is fuel for the others.
      have hlt := (opens_definition hd).count_lt (takes_definition hd hrest) hrest.apart
      have hcount : count ('\n' :: '\n' :: (Document.text (e :: doc)).toList)
          = count (Document.text (e :: doc)).toList := count_separators newlines_separate _
      have hfuelMore : count (Document.text (e :: doc)).toList ≤ fuel := by
        rw [htext] at hfuel
        omega
      have hdocument := (ih (List.cons_ne_nil e doc) hmore hfuelMore).separators newlines_separate
      rw [htext]
      refine (takes_definition hd hrest).bind ((takes_front _).bind ?_)
      rw [if_neg hfront]
      exact hdocument.bind (takes_pure _ _)

end Definitions
end Parser

/-- The text of a document is read as the document. -/
theorem Document.parse_text {doc : Document Unit} (hne : doc ≠ []) (h : ∀ d ∈ doc, d.IsWritable) :
    Document.parse Unit doc.text = .ok doc := by
  have htakes := Parser.takes_tokensLeft (Parser.takes_definitions hne h (Nat.le_refl _))
  have hsound : Sound doc.text.toList := by
    obtain ⟨d, doc, rfl⟩ := List.exists_cons_of_ne_nil hne
    obtain ⟨more, hmore, htext⟩ := Parser.intercalate_front Parser.newlines_between d.text
      (doc.map Definition.text) (apart_separator (c := '\n') rfl [])
    have hopens := (Parser.opens_definition (h d List.mem_cons_self)).sound hmore
    rw [Document.text, List.map_cons, String.toList_append]
    rwa [← htext] at hopens
  obtain ⟨ts, hts⟩ := hsound.position doc.text.toList.length
  have hrun := htakes.run doc.text.toList.length
  rw [hts] at hrun
  rw [Document.parse, Parser.run, scan_eq, hts]
  split
  · next heq => exact absurd (Token.mk.inj (List.cons.inj heq).1).2 (hsound _)
  · show Except.map (·.1) ((Parser.tokensLeft >>= Parser.definitions) _) = _
    rw [hrun]
    rfl

end Subgraph
