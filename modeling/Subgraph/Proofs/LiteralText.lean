import Mathlib.Data.List.Forall2
import Subgraph.Federation.Sdl
import Subgraph.Proofs.BlockText
import Subgraph.Proofs.Indentation
import Subgraph.Proofs.NumberText
import Subgraph.Proofs.Parsing
import Subgraph.Proofs.QuotedText

/-!
# Types, values and directives read back

What is written of a type, a value or a directive is read as that type, value or directive, whatever
follows that does not belong to it.
-/

namespace Subgraph.Parser
open Token Federation
variable {α : Type} {cs rest : List Char}

section Follows

/-- A text that may stand behind another one: it does not run on from it, and starts with a token of
some kind. -/
structure Follows (P : Lexeme → Prop) (rest : List Char) : Prop where
  apart : Apart rest
  sound : Sound rest
  front : P (Token.front rest)

variable {P : Lexeme → Prop}

theorem Follows.mono {P' : Lexeme → Prop} (h : Follows P rest) (hok : ∀ l, P l → P' l) :
    Follows P' rest := ⟨h.apart, h.sound, hok _ h.front⟩

theorem Follows.any (h : Follows P rest) : Follows (fun _ => True) rest :=
  h.mono fun _ _ => trivial

theorem follows_punctuation {c : Char} {p : Punctuation} (h : Punctuation.ofChar? c = some p)
    (hok : P (.punctuation p)) (cs : List Char) : Follows P (c :: cs) := by
  have hfront : Token.front (c :: cs) = .punctuation p := (starts_punctuation h).front_eq
  refine ⟨apart_punctuation h cs, fun e he => ?_, by rw [hfront]; exact hok⟩
  rw [hfront] at he
  cases he

theorem follows_of_starts {l : Lexeme} (h : Starts cs l rest) (hapart : Apart cs)
    (hl : ∀ e, l ≠ .bad e) (hok : P l) : Follows P cs :=
  ⟨hapart, sound_of_starts h hl, by rw [h.front_eq]; exact hok⟩

theorem front_separator {c : Char} (hc : isSeparator c = true) (cs : List Char) :
    Token.front (c :: cs) = Token.front cs := by
  have hall : ∀ d ∈ [c], isSeparator d = true := by simpa using hc
  exact front_separators hall cs

theorem follows_separator {c : Char} (hc : isSeparator c = true) (hsound : Sound cs)
    (hok : P (Token.front cs)) : Follows P (c :: cs) := by
  have hfront := front_separator hc cs
  exact ⟨apart_separator hc cs, fun e he => hsound e (hfront ▸ he), by rw [hfront]; exact hok⟩

end Follows

section Items

/-- A token that an item of a list can start with. -/
def begins : Lexeme → Bool
  | .punctuation .bracketLeft => true
  | .punctuation .braceLeft => true
  | .punctuation _ => false
  | .finish => false
  | .bad _ => false
  | _ => true

/-- A text that starts with such a token, behind separators or not. -/
structure Opens (text : String) : Prop where
  char : ∃ ss c t, text.toList = ss ++ c :: t ∧ (∀ d ∈ ss, isSeparator d = true)
    ∧ isSeparator c = false ∧ c ≠ '#'
  front : ∀ cs, Apart cs → begins (Token.front (text.toList ++ cs)) = true

/-- What stands behind an item: the next one, or the closing mark. -/
def Between (close : Punctuation) (l : Lexeme) : Prop := begins l = true ∨ l = .punctuation close

/-- A text that an item of a list is read from. -/
structure IsItem (item : Parser α) (close : Punctuation) (text : String) (a : α) : Prop where
  opens : Opens text
  reads : ∀ rest, Follows (Between close) rest → Takes item (text.toList ++ rest) a rest

theorem Opens.sound {text : String} (h : Opens text) {cs : List Char} (hcs : Apart cs) :
    Sound (text.toList ++ cs) := by
  intro e he
  have hbegins := h.front cs hcs
  rw [he] at hbegins
  cases hbegins

theorem count_separators {s : List Char} (hss : ∀ c ∈ s, isSeparator c = true) (cs : List Char) :
    count (s ++ cs) = count cs := by
  rw [count, count, tokens_separators 0 hss]

theorem Sound.of_separators {s : List Char} (hss : ∀ c ∈ s, isSeparator c = true)
    (h : Sound (s ++ cs)) : Sound cs := by
  intro e he
  exact h e ((front_separators hss cs).trans he)

theorem Opens.count_lt {text : String} {item : Parser α} {a : α} (h : Opens text)
    (htakes : Takes item (text.toList ++ rest) a rest) (hrest : Apart rest) :
    count rest < count (text.toList ++ rest) := by
  obtain ⟨ss, c, t, htext, hss, hc, hcomment⟩ := h.char
  have hsound := h.sound hrest
  rw [htext, List.append_assoc] at htakes hsound ⊢
  rw [count_separators hss]
  refine Takes.count_lt (p := item) (a := a) ⟨fun size => ?_, fun size => ?_⟩ hc hcomment
    (Sound.of_separators hss hsound)
  · have hrun := htakes.run size
    rwa [tokens_separators size hss] at hrun
  · have hsuffix := htakes.suffix size
    rwa [tokens_separators size hss] at hsuffix

theorem IsItem.count_lt {item : Parser α} {close : Punctuation} {text : String} {a : α}
    (h : IsItem item close text a) (hrest : Follows (Between close) rest) :
    count rest < count (text.toList ++ rest) :=
  h.opens.count_lt (h.reads rest hrest) hrest.apart

theorem Series.separators {item : Parser α} {close : Punctuation} {as : List α} {s : List Char}
    (hss : ∀ c ∈ s, isSeparator c = true) (h : Series item close cs as rest) :
    Series item close (s ++ cs) as rest := by
  cases h with
  | nil closes sound => exact .nil (closes.separators hss) sound
  | cons sound opens takes shrinks more =>
    refine .cons (fun e he => sound e ?_) ?_ (takes.separators hss) ?_ more
    · rwa [front_separators hss] at he
    · rwa [front_separators hss]
    · rwa [count_separators hss]

theorem comma_between : ", " ≠ "" ∧ ∀ c ∈ (", " : String).toList, isSeparator c = true :=
  ⟨by decide, separators_of_all (by decide)⟩

theorem newline_between : "\n" ≠ "" ∧ ∀ c ∈ ("\n" : String).toList, isSeparator c = true :=
  ⟨by decide, separators_of_all (by decide)⟩

theorem newlines_between : "\n\n" ≠ "" ∧ ∀ c ∈ ("\n\n" : String).toList, isSeparator c = true :=
  ⟨by decide, separators_of_all (by decide)⟩

theorem intercalate_front {s : String}
    (hseparator : s ≠ "" ∧ ∀ c ∈ s.toList, isSeparator c = true) (text : String)
    (texts : List String) {tail : List Char} (hapart : Apart tail) :
    ∃ rest, Apart rest ∧ (s.intercalate (text :: texts)).toList ++ tail
      = text.toList ++ rest := by
  cases texts with
  | nil => exact ⟨tail, hapart, by rw [String.intercalate_singleton]⟩
  | cons next texts =>
    refine ⟨s.toList ++ ((s.intercalate (next :: texts)).toList ++ tail), ?_, ?_⟩
    · obtain ⟨c, cs, hcs⟩ := List.exists_cons_of_ne_nil fun h =>
        hseparator.1 (String.toList_eq_nil_iff.mp h)
      rw [hcs]
      exact apart_separator (hseparator.2 c (by rw [hcs]; exact List.mem_cons_self)) _
    · rw [String.intercalate_cons_cons]
      simp only [String.toList_append, List.append_assoc]

theorem series_of_items {item : Parser α} {close : Punctuation}
    (hclose : begins (.punctuation close) = false) {s : String}
    (hseparator : s ≠ "" ∧ ∀ c ∈ s.toList, isSeparator c = true)
    {texts : List String} {as : List α} (h : List.Forall₂ (IsItem item close) texts as)
    {tail : List Char} (hapart : Apart tail) (hcloses : Starts tail (.punctuation close) rest)
    (hrest : Sound rest) :
    Series item close ((s.intercalate texts).toList ++ tail) as rest := by
  have hfront : ∀ {text : String}, Opens text → ∀ {cs : List Char}, Apart cs →
      Token.front (text.toList ++ cs) ≠ .punctuation close := by
    intro text ht cs hcs heq
    have hbegins := ht.front cs hcs
    rw [heq, hclose] at hbegins
    cases hbegins
  -- By induction on the items. The last one stands before the closing mark, each other one before
  -- a separator.
  induction h with
  | nil => exact .nil hcloses hrest
  | @cons text a texts as hitem hmore ih =>
    cases hmore with
    | nil =>
      have htail : Follows (Between close) tail := by
        refine ⟨hapart, fun e he => ?_, .inr hcloses.front_eq⟩
        rw [hcloses.front_eq] at he
        cases he
      rw [String.intercalate_singleton]
      exact .cons (hitem.opens.sound hapart) (hfront hitem.opens hapart) (hitem.reads _ htail)
        (hitem.count_lt htail) (.nil hcloses hrest)
    | @cons next b texts bs hnext hmore =>
      obtain ⟨more, hmoreApart, hmoreText⟩ := intercalate_front hseparator next texts hapart
      obtain ⟨c, cs, hcs⟩ := List.exists_cons_of_ne_nil fun h =>
        hseparator.1 (String.toList_eq_nil_iff.mp h)
      have hbehind : Follows (Between close)
          (s.toList ++ ((s.intercalate (next :: texts)).toList ++ tail)) := by
        rw [hmoreText]
        refine ⟨?_, fun e he => ?_, .inl ?_⟩
        · rw [hcs]
          exact apart_separator (hseparator.2 c (by rw [hcs]; exact List.mem_cons_self)) _
        · rw [front_separators hseparator.2] at he
          exact hnext.opens.sound hmoreApart e he
        · rw [front_separators hseparator.2]
          exact hnext.opens.front more hmoreApart
      rw [String.intercalate_cons_cons]
      simp only [String.toList_append, List.append_assoc]
      exact .cons (hitem.opens.sound hbehind.apart) (hfront hitem.opens hbehind.apart)
        (hitem.reads _ hbehind) (hitem.count_lt hbehind) (ih.separators hseparator.2)

end Items

end Subgraph.Parser

namespace Subgraph
open Token

/-- A type that can be written: its name is one, and no mark stands behind another one. -/
def TypeRef.IsWritable : TypeRef → Prop
  | .named n => isName n = true
  | .list t => t.IsWritable
  | .nonNull (.nonNull _) => False
  | .nonNull t => t.IsWritable

/-- How many lists stand in each other. -/
def TypeRef.lists : TypeRef → Nat
  | .named _ => 0
  | .list t => t.lists + 1
  | .nonNull t => t.lists

namespace Literal

mutual
/-- A constant that can be written. -/
def IsWritable : Literal Unit → Prop
  | .variable _ _ => False
  | .int _ s => IsIntText s
  | .float _ s => IsFloatText s
  | .string _ s b => b = true → Text.HeldByBlock s
  | .bool _ _ => True
  | .null _ => True
  | .enum _ n => isName n = true ∧ n ∉ Parser.reservedWords
  | .list _ xs => ItemsWritable xs
  | .object _ fs => FieldsWritable fs
def ItemsWritable : List (Literal Unit) → Prop
  | [] => True
  | x :: xs => x.IsWritable ∧ ItemsWritable xs
def FieldsWritable : List (Unit × String × Literal Unit) → Prop
  | [] => True
  | (_, n, v) :: r => isName n = true ∧ v.IsWritable ∧ FieldsWritable r
end

mutual
/-- How many lists and objects stand in each other. -/
def depth : Literal Unit → Nat
  | .list _ xs => itemsDepth xs + 1
  | .object _ fs => fieldsDepth fs + 1
  | _ => 0
def itemsDepth : List (Literal Unit) → Nat
  | [] => 0
  | x :: xs => max x.depth (itemsDepth xs)
def fieldsDepth : List (Unit × String × Literal Unit) → Nat
  | [] => 0
  | (_, _, v) :: r => max v.depth (fieldsDepth r)
end

end Literal

structure Argument.IsWritable (a : Argument Unit) : Prop where
  name : isName a.name = true
  value : a.value.IsWritable
  depth : a.value.depth ≤ Document.deepestNesting

structure Directive.IsWritable (d : Directive Unit) : Prop where
  name : isName d.name = true
  arguments : ∀ a ∈ d.arguments, a.IsWritable

end Subgraph

namespace Subgraph.Parser
open Token Federation
variable {α : Type}

section Types
variable {rest rest' : List Char}

theorem takes_mark (u : TypeRef) (h : Sound rest) :
    Takes (do return if ← accept .bang then TypeRef.nonNull u else u) ('!' :: rest) (.nonNull u)
      rest :=
  (takes_accept (starts_punctuation rfl) h).bind (takes_pure _ _)

theorem takes_noMark (u : TypeRef) (h : Token.front rest ≠ .punctuation .bang) :
    Takes (do return if ← accept .bang then TypeRef.nonNull u else u) rest u rest :=
  (takes_refuse h).bind (takes_pure _ _)

theorem takes_named {n : String} (hn : isName n = true) (levels : Nat)
    (h : Follows (fun _ => True) rest) {t : TypeRef}
    (hmark : Takes (do return if ← accept .bang then TypeRef.nonNull (.named n) else .named n)
      rest t rest') : Takes (typeRefWithin levels) (n.toList ++ rest) t rest' := by
  have hname : Takes name (n.toList ++ rest) n rest :=
    takes_name (starts_name hn h.apart) h.sound
  have hfront : Token.front (n.toList ++ rest) = .name n := (starts_name hn h.apart).front_eq
  have hbracket : Takes (accept .bracketLeft) (n.toList ++ rest) false (n.toList ++ rest) :=
    takes_refuse (by rw [hfront]; intro h; cases h)
  cases levels with
  | zero =>
    rw [typeRefWithin]
    exact hbracket.bind ((hname.map _).bind hmark)
  | succ levels =>
    rw [typeRefWithin]
    exact hbracket.bind ((hname.map _).bind hmark)

theorem takes_list {u : TypeRef} {levels : Nat} {cs : List Char}
    (hu : Takes (typeRefWithin levels) cs u (']' :: rest)) (hcs : Sound cs) (hrest : Sound rest)
    {t : TypeRef}
    (hmark : Takes (do return if ← accept .bang then TypeRef.nonNull (.list u) else .list u)
      rest t rest') : Takes (typeRefWithin (levels + 1)) ('[' :: cs) t rest' := by
  have hopen : Takes (accept .bracketLeft) ('[' :: cs) true cs :=
    takes_accept (starts_punctuation rfl) hcs
  have hclose : Takes (expect .bracketRight) (']' :: rest) () rest :=
    takes_expect (starts_punctuation rfl) hrest
  rw [typeRefWithin]
  exact hopen.bind (hu.bind (hclose.bind hmark))

theorem sound_text {t : TypeRef} (ht : t.IsWritable) (hrest : Apart rest) :
    Sound (t.text.toList ++ rest) := by
  induction t generalizing rest with
  | named n => exact sound_of_starts (starts_name ht hrest) (by intro e he; cases he)
  | list u ih =>
    rw [TypeRef.text]
    simp only [String.toList_append, List.append_assoc]
    exact sound_of_starts (starts_punctuation (c := '[') rfl) (by intro e he; cases he)
  | nonNull u ih =>
    have hu : u.IsWritable := by cases u <;> first | exact ht | cases ht
    rw [TypeRef.text]
    simp only [String.toList_append, List.append_assoc]
    exact ih hu (apart_punctuation (c := '!') rfl _)

theorem takes_typeRef : ∀ (t : TypeRef), t.IsWritable → ∀ (levels : Nat), t.lists ≤ levels →
    ∀ {rest : List Char}, Follows (· ≠ .punctuation .bang) rest →
      Takes (typeRefWithin levels) (t.text.toList ++ rest) t rest
  | .named n, ht, levels, _, rest, h => takes_named ht levels h.any (takes_noMark _ h.front)
  | .nonNull (.named n), ht, levels, _, rest, h => by
    have hmark : Follows (fun _ => True) ('!' :: rest) := follows_punctuation rfl trivial rest
    have htakes := takes_named ht levels hmark (takes_mark (.named n) h.sound)
    simp only [TypeRef.text, String.toList_append, List.append_assoc]
    exact htakes
  | .list u, ht, levels + 1, hlists, rest, h => by
    have hclose : Follows (· ≠ .punctuation .bang) (']' :: rest) :=
      follows_punctuation rfl (by decide) rest
    have hitem := takes_typeRef u ht levels (Nat.le_of_succ_le_succ hlists) hclose
    have htakes := takes_list hitem (sound_text ht hclose.apart) h.sound
      (takes_noMark (.list u) h.front)
    simp only [TypeRef.text, String.toList_append, List.append_assoc]
    exact htakes
  | .nonNull (.list u), ht, levels + 1, hlists, rest, h => by
    have hclose : Follows (· ≠ .punctuation .bang) (']' :: '!' :: rest) :=
      follows_punctuation rfl (by decide) _
    have hitem := takes_typeRef u ht levels (Nat.le_of_succ_le_succ hlists) hclose
    have hmark : Sound ('!' :: rest) :=
      sound_of_starts (starts_punctuation rfl) (by intro e he; cases he)
    have htakes := takes_list hitem (sound_text ht hclose.apart) hmark (takes_mark (.list u) h.sound)
    simp only [TypeRef.text, String.toList_append, List.append_assoc]
    exact htakes

end Types

section Openings
variable {a b n s : String}

/-- A text that a following one is not part of. -/
def KeepsApart (b : String) : Prop := ∀ cs, Apart cs → Apart (b.toList ++ cs)

theorem keepsApart_of_apart (h : Apart b.toList) (hne : b ≠ "") : KeepsApart b := by
  intro cs _ c hc
  obtain ⟨d, ds, hds⟩ := List.exists_cons_of_ne_nil fun h => hne (String.toList_eq_nil_iff.mp h)
  rw [hds] at h hc
  exact h c hc

theorem Opens.append (h : Opens a) (hb : KeepsApart b) : Opens (a ++ b) where
  char := by
    obtain ⟨ss, c, t, htext, hchar⟩ := h.char
    exact ⟨ss, c, t ++ b.toList, by rw [String.toList_append, htext]; simp, hchar⟩
  front cs hcs := by
    rw [String.toList_append, List.append_assoc]
    exact h.front _ (hb cs hcs)

theorem Opens.separators (h : Opens b) (ha : ∀ c ∈ a.toList, isSeparator c = true) :
    Opens (a ++ b) where
  char := by
    obtain ⟨ss, c, t, htext, hss, hchar⟩ := h.char
    refine ⟨a.toList ++ ss, c, t, by rw [String.toList_append, htext]; simp, ?_, hchar⟩
    intro d hd
    rcases List.mem_append.mp hd with hd | hd
    · exact ha d hd
    · exact hss d hd
  front cs hcs := by
    rw [String.toList_append, List.append_assoc, front_separators ha]
    exact h.front cs hcs

theorem opens_name (hn : isName n = true) : Opens n where
  char := by
    obtain ⟨hhead, -⟩ := Bool.and_eq_true_iff.mp hn
    cases hcs : n.toList with
    | nil =>
      rw [hcs] at hhead
      cases hhead
    | cons c cs =>
      rw [hcs] at hhead
      obtain ⟨hseparator, hcomment, -⟩ := of_isNameStart (show Text.isNameStart c = true from hhead)
      exact ⟨[], c, cs, rfl, by simp, hseparator, hcomment⟩
  front cs hcs := by
    rw [(starts_name hn hcs).front_eq]
    rfl

theorem opens_number {minus whole fraction exponent : List Char}
    (h : NumberParts s.toList minus whole fraction exponent) : Opens s where
  char := by
    obtain ⟨c, r, htext, hc⟩ := h.head
    obtain ⟨hseparator, hcomment, -⟩ := of_numberStart hc
    exact ⟨[], c, r, htext, by simp, hseparator, hcomment⟩
  front cs hcs := by
    rw [(starts_number h hcs).front_eq]
    split <;> rfl

theorem opens_quote (s : String) : Opens (Text.quote s) where
  char := ⟨[], '"', _, by rw [Text.quote, String.toList_ofList]; rfl, by simp, by decide, by decide⟩
  front cs hcs := by
    rw [(starts_quote s hcs).front_eq]
    rfl

theorem opens_block (h : Text.HeldByBlock s) {indent : String}
    (hindent : ∀ c ∈ indent.toList, Text.isBlankChar c = true) :
    Opens (Text.indentAfterNewlines indent (Text.layoutBlock s)) where
  char := by
    refine ⟨[], '"', ?_, ?_, by simp, by decide, by decide⟩
    rotate_left
    · rw [Text.indentAfterNewlines, String.toList_ofList, Text.layoutBlock_eq]
      rfl
  front cs _ := by
    rw [(starts_layoutBlock h hindent cs).front_eq]
    rfl

end Openings

section Values
variable {rest : List Char}

theorem opens_punctuation {c : Char} {p : Punctuation} {s : String}
    (h : Punctuation.ofChar? c = some p) (hp : begins (.punctuation p) = true)
    (hs : s.toList.head? = some c) : Opens s := by
  obtain ⟨cs, hcs⟩ := List.head?_eq_some_iff.mp hs
  refine ⟨⟨[], c, cs, hcs, by simp, (of_punctuation h).1, (of_punctuation h).2.1⟩, fun rest _ => ?_⟩
  rw [hcs, List.cons_append, (starts_punctuation h).front_eq]
  exact hp

theorem blanks_none : ∀ c ∈ ("" : String).toList, Text.isBlankChar c = true := by simp

theorem opens_literal : ∀ {l : Literal Unit}, l.IsWritable → Opens l.print
  | .int _ _, ⟨_, _, h⟩ => opens_number h
  | .float _ _, ⟨_, _, _, _, h, _⟩ => opens_number h
  | .string _ s true, h => by
    have hopens := opens_block (h rfl) blanks_none
    rwa [Text.indentAfterNewlines_empty] at hopens
  | .string _ s false, _ => opens_quote s
  | .bool _ true, _ => opens_name (n := "true") (by decide)
  | .bool _ false, _ => opens_name (n := "false") (by decide)
  | .null _, _ => opens_name (n := "null") (by decide)
  | .enum _ n, h => opens_name h.1
  | .list _ xs, _ => by
    refine opens_punctuation (c := '[') rfl rfl ?_
    rw [Literal.print, String.toList_append, String.toList_append]
    rfl
  | .object _ fs, _ => by
    refine opens_punctuation (c := '\x7b') rfl rfl ?_
    rw [Literal.print, braced, String.toList_append, String.toList_append]
    rfl

theorem takes_literal_plain {cs : List Char} {l : Literal Unit} (levels : Nat)
    (hlist : Token.front cs ≠ .punctuation .bracketLeft)
    (hobject : Token.front cs ≠ .punctuation .braceLeft)
    (h : Takes (plainLiteral true) cs l rest) : Takes (literal true levels) cs l rest := by
  cases levels with
  | zero =>
    rw [literal]
    refine (takes_front cs).bind ?_
    split
    · next heq => exact absurd heq hlist
    · next heq => exact absurd heq hobject
    · exact h
  | succ levels =>
    rw [literal]
    refine (takes_here cs).bind ((takes_front cs).bind ?_)
    split
    · next heq => exact absurd heq hlist
    · next heq => exact absurd heq hobject
    · exact h

/-- The value that a token is on its own. -/
def leafLiteral : Lexeme → Option (Literal Unit)
  | .int s => some (.int () s)
  | .float s => some (.float () s)
  | .string s b => some (.string () s b)
  | .name n => some (if n = "true" then .bool () true else if n = "false" then .bool () false
      else if n = "null" then .null () else .enum () n)
  | _ => none

theorem takes_leaf {cs : List Char} {t : Lexeme} {l : Literal Unit} (levels : Nat)
    (h : Starts cs t rest) (hrest : Sound rest) (hl : leafLiteral t = some l) :
    Takes (literal true levels) cs l rest := by
  refine takes_literal_plain levels (by rw [h.front_eq]; rintro rfl; cases hl)
    (by rw [h.front_eq]; rintro rfl; cases hl) ?_
  refine (takes_here cs).bind ((takes_front cs).bind ?_)
  rw [h.front_eq]
  cases t <;> cases hl <;> exact (takes_advance h hrest).bind (takes_pure _ _)

/-- A field of an object. -/
def literalField (levels : Nat) : Parser (Unit × String × Literal Unit) := do
  let m ← here
  let n ← name
  expect .colon
  return (m, n, ← literal true levels)

theorem takes_listLiteral {xs : List (Literal Unit)} {levels : Nat}
    (h : List.Forall₂ (IsItem (literal true levels) .bracketRight) (Literal.printItems xs) xs)
    (hrest : Sound rest) :
    Takes (literal true (levels + 1)) ((Literal.list () xs).print.toList ++ rest) (.list () xs) rest := by
  have hclose : Starts (']' :: rest) (.punctuation .bracketRight) rest := starts_punctuation rfl
  have hseries : Series (literal true levels) .bracketRight
      ((", ".intercalate (Literal.printItems xs)).toList ++ ']' :: rest) xs rest :=
    series_of_items rfl comma_between h (apart_punctuation (c := ']') rfl _) hclose hrest
  have hopen : Starts ('[' :: ((", ".intercalate (Literal.printItems xs)).toList ++ ']' :: rest))
      (.punctuation .bracketLeft) _ := starts_punctuation rfl
  have htext : (Literal.list () xs).print.toList ++ rest
      = '[' :: ((", ".intercalate (Literal.printItems xs)).toList ++ ']' :: rest) := by
    rw [Literal.print]
    simp only [String.toList_append, List.append_assoc]
    rfl
  rw [htext, literal]
  refine (takes_here _).bind ((takes_front _).bind ?_)
  rw [hopen.front_eq]
  refine (takes_advance hopen hseries.sound).bind ?_
  exact takes_tokensLeft ((hseries.takes_upTo (Nat.le_refl _)).bind (takes_pure _ _))

theorem takes_objectLiteral {fs : List (Unit × String × Literal Unit)} {levels : Nat}
    (h : List.Forall₂ (IsItem (literalField levels) .braceRight) (Literal.printFields fs) fs)
    (hrest : Sound rest) :
    Takes (literal true (levels + 1)) ((Literal.object () fs).print.toList ++ rest) (.object () fs)
      rest := by
  have hclose : Starts ('\x7d' :: rest) (.punctuation .braceRight) rest := starts_punctuation rfl
  have hseries : Series (literalField levels) .braceRight
      ((", ".intercalate (Literal.printFields fs)).toList ++ '\x7d' :: rest) fs rest :=
    series_of_items rfl comma_between h (apart_punctuation (c := '\x7d') rfl _) hclose hrest
  have hopen : Starts
      ('\x7b' :: ((", ".intercalate (Literal.printFields fs)).toList ++ '\x7d' :: rest))
      (.punctuation .braceLeft) _ := starts_punctuation rfl
  have htext : (Literal.object () fs).print.toList ++ rest
      = '\x7b' :: ((", ".intercalate (Literal.printFields fs)).toList ++ '\x7d' :: rest) := by
    rw [Literal.print, braced]
    simp only [String.toList_append, List.append_assoc]
    rfl
  rw [htext, literal]
  refine (takes_here _).bind ((takes_front _).bind ?_)
  rw [hopen.front_eq]
  refine (takes_advance hopen hseries.sound).bind ?_
  exact takes_tokensLeft ((hseries.takes_upTo (Nat.le_refl _)).bind (takes_pure _ _))

theorem opens_named {n : String} (hn : isName n = true) (value : String) :
    Opens (n ++ ": " ++ value) := by
  have hapart : Apart (": " ++ value).toList := by
    rw [String.toList_append]
    exact apart_punctuation (c := ':') rfl _
  have hne : ": " ++ value ≠ "" := by
    rw [Ne, String.append_eq_empty_iff]
    exact fun h => absurd h.1 (by decide)
  rw [String.append_assoc]
  exact (opens_name hn).append (keepsApart_of_apart hapart hne)

theorem takes_named_value {n : String} {l : Literal Unit} {levels : Nat}
    {f : Unit → String → Literal Unit → α} (hn : isName n = true) (hl : Opens l.print)
    (h : Takes (literal true levels) (l.print.toList ++ rest) l rest) (hrest : Apart rest) :
    Takes (do
      let m ← here
      let n ← name
      expect .colon
      return f m n (← literal true levels)) ((n ++ ": " ++ l.print).toList ++ rest) (f () n l) rest := by
  have hsound : Sound (' ' :: (l.print.toList ++ rest)) := by
    intro e he
    rw [front_separator (by decide)] at he
    exact hl.sound hrest e he
  have hcolon : Starts (':' :: ' ' :: (l.print.toList ++ rest)) (.punctuation .colon) _ :=
    starts_punctuation rfl
  have hname : Takes name (n.toList ++ ':' :: ' ' :: (l.print.toList ++ rest)) n _ :=
    takes_name (starts_name hn (apart_punctuation (c := ':') rfl _)) (sound_of_starts hcolon nofun)
  have htext : (n ++ ": " ++ l.print).toList ++ rest
      = n.toList ++ ':' :: ' ' :: (l.print.toList ++ rest) := by
    simp only [String.toList_append, List.append_assoc]
    rfl
  have hvalue : Takes (literal true levels) (' ' :: (l.print.toList ++ rest)) l rest :=
    h.separators blank_separates
  rw [htext]
  exact (takes_here _).bind (hname.bind ((takes_expect hcolon hsound).bind
    (hvalue.bind (takes_pure _ _))))

mutual

theorem takes_literal : ∀ (l : Literal Unit), l.IsWritable → ∀ levels, l.depth ≤ levels →
    ∀ {rest : List Char}, Follows (fun _ => True) rest →
      Takes (literal true levels) (l.print.toList ++ rest) l rest
  | .int _ s, hl, levels, _, rest, h => takes_leaf levels (starts_int hl h.apart) h.sound rfl
  | .float _ s, hl, levels, _, rest, h => takes_leaf levels (starts_float hl h.apart) h.sound rfl
  | .string _ s true, hl, levels, _, rest, h => by
    have hstarts := starts_layoutBlock (hl rfl) blanks_none rest
    rw [Text.indentAfterNewlines_empty] at hstarts
    exact takes_leaf levels hstarts h.sound rfl
  | .string _ s false, _, levels, _, rest, h => takes_leaf levels (starts_quote s h.apart) h.sound rfl
  | .bool _ true, _, levels, _, rest, h =>
    takes_leaf levels (starts_name (n := "true") (by decide) h.apart) h.sound rfl
  | .bool _ false, _, levels, _, rest, h =>
    takes_leaf levels (starts_name (n := "false") (by decide) h.apart) h.sound rfl
  | .null _, _, levels, _, rest, h =>
    takes_leaf levels (starts_name (n := "null") (by decide) h.apart) h.sound rfl
  | .enum _ n, hl, levels, _, rest, h => by
    obtain ⟨htrue, hfalse, hnull⟩ : n ≠ "true" ∧ n ≠ "false" ∧ n ≠ "null" := by
      simpa [reservedWords] using hl.2
    refine takes_leaf (t := .name n) levels (starts_name hl.1 h.apart) h.sound ?_
    rw [leafLiteral, if_neg htrue, if_neg hfalse, if_neg hnull]
  | .list _ xs, hl, levels + 1, hdepth, rest, h =>
    takes_listLiteral (items_literals xs hl levels (Nat.le_of_succ_le_succ hdepth)) h.sound
  | .object _ fs, hl, levels + 1, hdepth, rest, h =>
    takes_objectLiteral (fields_literals fs hl levels (Nat.le_of_succ_le_succ hdepth)) h.sound

theorem items_literals : ∀ (xs : List (Literal Unit)), Literal.ItemsWritable xs →
    ∀ levels, Literal.itemsDepth xs ≤ levels →
      List.Forall₂ (IsItem (literal true levels) .bracketRight) (Literal.printItems xs) xs
  | [], _, _, _ => .nil
  | x :: xs, ⟨hx, hxs⟩, levels, hdepth => by
    refine .cons ⟨opens_literal hx, fun rest h => ?_⟩ (items_literals xs hxs levels ?_)
    · exact takes_literal x hx levels (Nat.le_trans (Nat.le_max_left _ _) hdepth) h.any
    · exact Nat.le_trans (Nat.le_max_right _ _) hdepth

theorem fields_literals : ∀ (fs : List (Unit × String × Literal Unit)), Literal.FieldsWritable fs →
    ∀ levels, Literal.fieldsDepth fs ≤ levels →
      List.Forall₂ (IsItem (literalField levels) .braceRight) (Literal.printFields fs) fs
  | [], _, _, _ => .nil
  | (_, n, v) :: fs, ⟨hn, hv, hfs⟩, levels, hdepth => by
    refine .cons ⟨opens_named hn _, fun rest h => ?_⟩ (fields_literals fs hfs levels ?_)
    · have hvalue := takes_literal v hv levels (Nat.le_trans (Nat.le_max_left _ _) hdepth) h.any
      exact takes_named_value (f := fun m n l => (m, n, l)) hn (opens_literal hv) hvalue h.apart
    · exact Nat.le_trans (Nat.le_max_right _ _) hdepth

end

end Values

section Directives
variable {rest : List Char}

theorem isItem_argument {a : Argument Unit} (h : a.IsWritable) :
    IsItem (argument true Document.deepestNesting) .parenRight a.print a where
  opens := opens_named h.name _
  reads _ hrest :=
    takes_named_value (f := Argument.mk) h.name (opens_literal h.value)
      (takes_literal a.value h.value _ h.depth hrest.any) hrest.apart

/-- What may stand behind a directive: nothing that could be its arguments. -/
def BehindDirective (l : Lexeme) : Prop := l ≠ .punctuation .parenLeft

theorem takes_arguments {as : List (Argument Unit)} (h : ∀ a ∈ as, a.IsWritable)
    (hrest : Follows BehindDirective rest) :
    Takes (arguments true Document.deepestNesting)
      ((if as.isEmpty then "" else "(" ++ ", ".intercalate (as.map Argument.print) ++ ")").toList ++ rest)
      as rest := by
  cases as with
  | nil => exact takes_noMany hrest.front
  | cons a as =>
    have hitems : List.Forall₂ (IsItem (argument true Document.deepestNesting) .parenRight)
        ((a :: as).map Argument.print) (a :: as) := by
      rw [List.forall₂_map_left_iff, List.forall₂_same]
      exact fun b hb => isItem_argument (h b hb)
    have hclose : Starts (')' :: rest) (.punctuation .parenRight) rest := starts_punctuation rfl
    have hseries := series_of_items rfl comma_between hitems
      (apart_punctuation (c := ')') rfl _) hclose hrest.sound
    have hopen : Starts ('(' :: ((", ".intercalate ((a :: as).map Argument.print)).toList ++ ')' :: rest))
        (.punctuation .parenLeft) _ := starts_punctuation rfl
    have htakes := hseries.takes_optionalMany hopen (List.cons_ne_nil a as)
    have htext : (if (a :: as).isEmpty then "" else
          "(" ++ ", ".intercalate ((a :: as).map Argument.print) ++ ")").toList ++ rest
        = '(' :: ((", ".intercalate ((a :: as).map Argument.print)).toList ++ ')' :: rest) := by
      rw [List.isEmpty_cons, if_neg Bool.false_ne_true]
      simp only [String.toList_append, List.append_assoc]
      rfl
    rw [htext]
    exact htakes

/-- What may stand behind directives: neither their arguments nor another directive. -/
def BehindDirectives (l : Lexeme) : Prop := l ≠ .punctuation .parenLeft ∧ l ≠ .punctuation .atSign

theorem printApplied_cons (d : Directive Unit) (ds : List (Directive Unit)) :
    printApplied (d :: ds) = " " ++ d.print ++ printApplied ds := by
  simp [printApplied, String.join_cons]

theorem starts_directive (d : Directive Unit) (ds : List (Directive Unit)) (rest : List Char) :
    Starts ((printApplied (d :: ds)).toList ++ rest) (.punctuation .atSign)
      (d.name.toList ++ ((if d.arguments.isEmpty then ""
        else "(" ++ ", ".intercalate (d.arguments.map Argument.print) ++ ")").toList
        ++ ((printApplied ds).toList ++ rest))) := by
  have hstarts : ∀ cs, Starts (' ' :: '@' :: cs) (.punctuation .atSign) cs := fun _ =>
    (starts_punctuation rfl).separators blank_separates
  rw [printApplied_cons, Directive.print]
  simp only [String.toList_append, List.append_assoc]
  exact hstarts _

theorem follows_directives {P : Lexeme → Prop} (ds : List (Directive Unit))
    (hok : P (.punctuation .atSign)) (h : Follows P rest) :
    Follows P ((printApplied ds).toList ++ rest) := by
  cases ds with
  | nil => exact h
  | cons d ds =>
    have hstarts := starts_directive d ds rest
    refine ⟨?_, sound_of_starts hstarts nofun, by rw [hstarts.front_eq]; exact hok⟩
    rw [printApplied_cons]
    simp only [String.toList_append, List.append_assoc]
    exact apart_separator (c := ' ') rfl _

theorem takes_directivesFrom {ds : List (Directive Unit)} (h : ∀ d ∈ ds, d.IsWritable)
    (hrest : Follows BehindDirectives rest) {fuel : Nat}
    (hfuel : count ((printApplied ds).toList ++ rest) ≤ fuel) :
    Takes (directivesFrom true Document.deepestNesting fuel) ((printApplied ds).toList ++ rest) ds
      rest := by
  -- The fuel is enough, as each directive takes a token at least.
  induction ds generalizing fuel with
  | nil =>
    obtain ⟨fuel, rfl⟩ := Nat.exists_eq_succ_of_ne_zero
      (Nat.ne_zero_of_lt (Nat.lt_of_lt_of_le (count_pos _) hfuel))
    exact (takes_here _).bind ((takes_refuse hrest.front.2).bind (takes_pure _ _))
  | cons d ds ih =>
    obtain ⟨fuel, rfl⟩ := Nat.exists_eq_succ_of_ne_zero
      (Nat.ne_zero_of_lt (Nat.lt_of_lt_of_le (count_pos _) hfuel))
    have hd := h d List.mem_cons_self
    have hstarts := starts_directive d ds rest
    have hmore : Follows BehindDirective ((printApplied ds).toList ++ rest) :=
      follows_directives ds nofun (hrest.mono fun _ hl => hl.1)
    have harguments := takes_arguments hd.arguments hmore
    have hbehind : Follows (fun _ => True) ((if d.arguments.isEmpty then ""
        else "(" ++ ", ".intercalate (d.arguments.map Argument.print) ++ ")").toList
        ++ ((printApplied ds).toList ++ rest)) := by
      cases d.arguments with
      | nil => exact hmore.any
      | cons a as =>
        rw [List.isEmpty_cons, if_neg Bool.false_ne_true]
        simp only [String.toList_append, List.append_assoc]
        exact follows_punctuation (c := '(') rfl trivial _
    have hname := starts_name hd.name hbehind.apart
    have hcount := Starts.count_eq hstarts
    have hle := (takes_name hname hbehind.sound).count_le
    have hle' := harguments.count_le
    have hfuelMore : count ((printApplied ds).toList ++ rest) ≤ fuel := by omega
    have hmoreTakes := ih (fun e he => h e (List.mem_cons_of_mem d he)) hfuelMore
    exact (takes_here _).bind ((takes_accept hstarts (sound_of_starts hname nofun)).bind
      ((takes_name hname hbehind.sound).bind (harguments.bind (hmoreTakes.bind (takes_pure _ _)))))

theorem takes_directives {ds : List (Directive Unit)} (h : ∀ d ∈ ds, d.IsWritable)
    (hrest : Follows BehindDirectives rest) :
    Takes (directives true) ((printApplied ds).toList ++ rest) ds rest :=
  takes_tokensLeft (takes_directivesFrom h hrest (Nat.le_refl _))

end Directives
end Subgraph.Parser
