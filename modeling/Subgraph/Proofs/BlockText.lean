import Subgraph.Proofs.Lines
import Subgraph.Proofs.Scanning

/-!
# Block strings read back

A text is laid out between triple quotes, indented to its place, and the layout is taken away again when
the block is read. What is taken away is what was put there if neither end of the text is a blank line
and, where it has several lines, one of them starts without a blank.
-/

namespace Subgraph.Text

section Texts

/-- The lines of a text. -/
abbrev textLines (cs : List Char) : List (List Char) := splitAt (· == '\n') cs

/-- Lines that a layout leaves alone: neither end is blank, and of several lines one is not
indented. -/
structure Margined (ls : List (List Char)) : Prop where
  first : ∀ l ∈ ls.head?, isBlankLine l = false
  last : ∀ l ∈ ls.getLast?, isBlankLine l = false
  margin : ls.length = 1 ∨ ∃ l ∈ ls, isBlankLine l = false ∧ leadingBlanks l = 0

/-- A text that a block string can hold. -/
structure HeldByBlock (s : String) : Prop where
  noReturn : '\r' ∉ s.toList
  lines : s = "" ∨ Margined (textLines s.toList)

theorem heldByBlock_of_fitsBlock {s : String} (h : fitsBlock s = true) : HeldByBlock s := by
  unfold fitsBlock at h
  simp only [Bool.or_eq_true, Bool.and_eq_true, List.isEmpty_iff] at h
  rcases h with h | ⟨⟨⟨hchars, hfirst⟩, hlast⟩, hmargin⟩
  · have hempty : s = "" := String.toList_eq_nil_iff.mp h
    exact ⟨by simp [h], .inl hempty⟩
  · have hlastLine : ∀ l ∈ (textLines s.toList).getLast?, isBlankLine l = false := by
      intro l hl
      rw [Option.mem_def.mp hl, Option.any_some, Bool.not_eq_true'] at hlast
      exact hlast
    refine ⟨fun hr => ?_, .inr ⟨fun l hl => ?_, hlastLine, ?_⟩⟩
    · have hreturn := List.all_eq_true.mp hchars '\r' hr
      revert hreturn
      decide
    · rw [Option.mem_def.mp hl, Option.any_some, Bool.not_eq_true', Bool.and_eq_false_iff,
        decide_eq_false_iff_not] at hfirst
      rcases hfirst with hfirst | hsingle
      · exact hfirst
      · -- The only line is the last one.
        obtain ⟨l', hls⟩ : ∃ l', textLines s.toList = [l'] := by
          cases hls : textLines s.toList with
          | nil => exact absurd hls (splitAt_ne_nil _ _)
          | cons l' rest =>
            cases rest with
            | nil => exact ⟨l', rfl⟩
            | cons _ _ =>
              refine absurd ?_ hsingle
              show 1 < (textLines s.toList).length
              rw [hls]
              simp
        rw [hls] at hl hlastLine
        exact hlastLine l hl
    · rcases hmargin with hone | hmargin
      · exact .inl (eq_of_beq hone)
      · obtain ⟨l, hl, hzero⟩ := List.any_eq_true.mp hmargin
        obtain ⟨hmem, hblank⟩ := List.mem_filter.mp hl
        exact .inr ⟨l, hmem, by simpa using hblank, eq_of_beq hzero⟩

end Texts

section Indenting
variable {indent : List Char}

theorem textLines_break (cs : List Char) : textLines ('\n' :: cs) = [] :: textLines cs :=
  splitAt_cons_sep (p := (· == '\n')) rfl cs

theorem textLines_cons {c : Char} (hc : c ≠ '\n') {cs l : List Char} {ls : List (List Char)}
    (hls : textLines cs = l :: ls) : textLines (c :: cs) = (c :: l) :: ls := by
  obtain ⟨l', ls', hcs, hcons⟩ :=
    splitAt_cons_other (p := (· == '\n')) (beq_eq_false_iff_ne.mpr hc) cs
  rw [textLines, hcs] at hls
  obtain ⟨rfl, rfl⟩ := List.cons.inj hls
  exact hcons

theorem textLines_append (h : '\n' ∉ indent) {cs l : List Char} {ls : List (List Char)}
    (hls : textLines cs = l :: ls) : textLines (indent ++ cs) = (indent ++ l) :: ls := by
  induction indent with
  | nil => exact hls
  | cons c indent ih =>
    obtain ⟨hc, hindent⟩ := not_or.mp (mt List.mem_cons.mpr h)
    exact textLines_cons (Ne.symm hc) (ih hindent)

theorem textLines_exists (cs : List Char) : ∃ l ls, textLines cs = l :: ls :=
  List.exists_cons_of_ne_nil (splitAt_ne_nil _ _)

/-- A character, with the indentation behind it if it ends a line. -/
def indentChar (indent : List Char) (c : Char) : List Char :=
  if c = '\n' then '\n' :: indent else [c]

theorem indentChar_of_ne {c : Char} (h : c ≠ '\n') : indentChar indent c = [c] := if_neg h

theorem textLines_indented (h : '\n' ∉ indent) (cs : List Char) {l : List Char}
    {ls : List (List Char)} (hls : textLines cs = l :: ls) :
    textLines (cs.flatMap (indentChar indent)) = l :: ls.map (indent ++ ·) := by
  induction cs generalizing l ls with
  | nil =>
    cases hls
    rfl
  | cons c cs ih =>
    obtain ⟨l', ls', hcs⟩ := textLines_exists cs
    rw [List.flatMap_cons]
    by_cases hc : c = '\n'
    · subst hc
      rw [textLines_break, hcs] at hls
      obtain ⟨rfl, rfl⟩ := List.cons.inj hls
      show textLines ('\n' :: (indent ++ cs.flatMap (indentChar indent))) = _
      rw [textLines_break, textLines_append h (ih hcs)]
      rfl
    · rw [textLines_cons hc hcs] at hls
      obtain ⟨rfl, rfl⟩ := List.cons.inj hls
      rw [indentChar_of_ne hc, List.singleton_append, textLines_cons hc (ih hcs)]

end Indenting

section Dedenting
variable {indent : List Char} {ls : List (List Char)}

theorem isBlankLine_append (h : ∀ c ∈ indent, isBlankChar c = true) (l : List Char) :
    isBlankLine (indent ++ l) = isBlankLine l := by
  rw [isBlankLine, List.all_append, List.all_eq_true.mpr h, Bool.true_and]
  rfl

theorem leadingBlanks_append (h : ∀ c ∈ indent, isBlankChar c = true) (l : List Char) :
    leadingBlanks (indent ++ l) = indent.length + leadingBlanks l := by
  rw [leadingBlanks, List.takeWhile_append_of_pos h, List.length_append]
  rfl

theorem dropBlankEnds_around (hfirst : ∀ l ∈ ls.head?, isBlankLine l = false)
    (hlast : ∀ l ∈ ls.getLast?, isBlankLine l = false) (hne : ls ≠ []) :
    dropBlankEnds ([] :: ls ++ [[]]) = ls := by
  have hhead : (ls ++ [[]]).dropWhile isBlankLine = ls ++ [[]] := by
    cases ls with
    | nil => exact absurd rfl hne
    | cons l ls => exact List.dropWhile_cons_of_neg (by simp [hfirst l rfl])
  have hdrop : ([] :: ls ++ [[]]).dropWhile isBlankLine = ls ++ [[]] := by
    rw [List.cons_append, List.dropWhile_cons_of_pos rfl, hhead]
  have hreverse : (ls ++ [[]]).reverse.dropWhile isBlankLine = ls.reverse := by
    rw [List.reverse_append]
    show ([] :: ls.reverse).dropWhile isBlankLine = _
    rw [List.dropWhile_cons_of_pos rfl]
    have hlast' : ∀ l ∈ ls.reverse.head?, isBlankLine l = false := fun l hl =>
      hlast l (by rwa [List.head?_reverse] at hl)
    cases hr : ls.reverse with
    | nil => rfl
    | cons l r =>
      rw [hr] at hlast'
      exact List.dropWhile_cons_of_neg (by simp [hlast' l rfl])
  rw [dropBlankEnds, hdrop, hreverse, List.reverse_reverse]

theorem commonIndent_indented (hindent : ∀ c ∈ indent, isBlankChar c = true)
    (hmargin : ∃ l ∈ ls, isBlankLine l = false ∧ leadingBlanks l = 0) :
    commonIndent ([] :: ls.map (indent ++ ·) ++ [indent]) = some indent.length := by
  rw [commonIndent, List.min?_eq_some_iff]
  constructor
  · obtain ⟨l, hl, hblank, hzero⟩ := hmargin
    refine List.mem_map.mpr ⟨indent ++ l, List.mem_filter.mpr ⟨?_, ?_⟩, ?_⟩
    · exact List.mem_append_left _ (List.mem_map_of_mem hl)
    · rw [isBlankLine_append hindent, hblank]
      rfl
    · rw [leadingBlanks_append hindent, hzero]
      rfl
  · intro n hn
    obtain ⟨l, hl, rfl⟩ := List.mem_map.mp hn
    obtain ⟨hmem, hblank⟩ := List.mem_filter.mp hl
    rcases List.mem_append.mp hmem with hmem | hmem
    · obtain ⟨l', -, rfl⟩ := List.mem_map.mp hmem
      rw [leadingBlanks_append hindent]
      exact Nat.le_add_right _ _
    · obtain rfl := List.mem_singleton.mp hmem
      have hleading := leadingBlanks_append hindent []
      rw [List.append_nil] at hleading
      rw [hleading]
      exact Nat.le_add_right _ _

theorem dedent_indented (hindent : ∀ c ∈ indent, isBlankChar c = true) (h : Margined ls)
    (hmargin : ∃ l ∈ ls, isBlankLine l = false ∧ leadingBlanks l = 0) :
    dedent ([] :: ls.map (indent ++ ·) ++ [indent]) = ls := by
  have hne : ls ≠ [] := by
    obtain ⟨l, hl, -⟩ := hmargin
    exact List.ne_nil_of_mem hl
  have hdrop : (ls.map (indent ++ ·) ++ [indent]).map (·.drop indent.length) = ls ++ [[]] := by
    rw [List.map_append, List.map_map]
    simp [Function.comp_def]
  show dropBlankEnds ([] :: (ls.map (indent ++ ·) ++ [indent]).map
    (·.drop ((commonIndent ([] :: ls.map (indent ++ ·) ++ [indent])).getD 0))) = ls
  rw [commonIndent_indented hindent hmargin, Option.getD_some, hdrop]
  exact dropBlankEnds_around h.first h.last hne

theorem dedent_line (hindent : ∀ c ∈ indent, isBlankChar c = true) {l : List Char}
    (hl : isBlankLine l = false) : dedent [l, indent] = [l] := by
  have hblank : isBlankLine indent = true := List.all_eq_true.mpr hindent
  have hnone : commonIndent [l, indent] = none := by
    rw [commonIndent, List.drop_succ_cons, List.drop_zero, List.filter_cons_of_neg (by simp [hblank])]
    rfl
  rw [dedent, hnone]
  show dropBlankEnds [l, indent] = [l]
  simp [dropBlankEnds, hl, hblank]

theorem dedent_single {l : List Char} (hl : isBlankLine l = false) : dedent [l] = [l] := by
  show dropBlankEnds [l] = [l]
  simp [dropBlankEnds, hl]

end Dedenting

section Escaping

theorem escape_append_of_noQuote {b : List Char} (hb : '"' ∉ b) (cs : List Char) :
    escapeTripleQuotes (b ++ cs) = b ++ escapeTripleQuotes cs := by
  induction b with
  | nil => rfl
  | cons c b ih =>
    obtain ⟨hc, hb⟩ := not_or.mp (mt List.mem_cons.mpr hb)
    rw [List.cons_append, escapeTripleQuotes_kept, ih hb, List.cons_append]
    intro r hr
    exact absurd hr.symm hc

theorem escape_append_noQuote {b : List Char} (hb : '"' ∉ b) (cs : List Char) :
    escapeTripleQuotes (cs ++ b) = escapeTripleQuotes cs ++ b := by
  induction cs using escapeTripleQuotes_cases with
  | triple r ih =>
    show escapeTripleQuotes ('"' :: '"' :: '"' :: (r ++ b)) = _
    rw [escapeTripleQuotes_triple, escapeTripleQuotes_triple, ih]
    rfl
  | kept c r hne ih =>
    rw [escapeTripleQuotes_kept hne, List.cons_append, escapeTripleQuotes_kept, ih, List.cons_append]
    rintro t rfl ht
    cases r with
    | nil =>
      rw [List.nil_append] at ht
      exact hb (ht ▸ List.mem_cons_self)
    | cons d r =>
      rw [List.cons_append, List.cons.injEq] at ht
      obtain ⟨rfl, ht⟩ := ht
      cases r with
      | nil =>
        rw [List.nil_append] at ht
        exact hb (ht ▸ List.mem_cons_self)
      | cons e r =>
        rw [List.cons_append, List.cons.injEq] at ht
        exact hne r rfl (by rw [ht.1])
  | empty =>
    have happend := escape_append_of_noQuote hb []
    rw [List.append_nil] at happend
    rw [List.nil_append, happend, escapeTripleQuotes_nil, List.append_nil, List.nil_append]

theorem of_escape_quote {cs r : List Char} (h : escapeTripleQuotes cs = '"' :: r) :
    ∃ cs', cs = '"' :: cs' ∧ escapeTripleQuotes cs' = r := by
  induction cs using escapeTripleQuotes_cases with
  | triple r ih =>
    rw [escapeTripleQuotes_triple] at h
    cases h
  | kept c cs hne ih =>
    rw [escapeTripleQuotes_kept] at h
    · obtain ⟨rfl, rfl⟩ := List.cons.inj h
      exact ⟨cs, rfl, rfl⟩
    · exact hne
  | empty => cases h

theorem escape_indented {indent : List Char} (hindent : '"' ∉ indent) (cs : List Char) :
    escapeTripleQuotes (cs.flatMap (indentChar indent))
      = (escapeTripleQuotes cs).flatMap (indentChar indent) := by
  have hquote : ∀ cs : List Char, ('"' :: cs).flatMap (indentChar indent)
      = '"' :: cs.flatMap (indentChar indent) := fun _ => rfl
  have hslash : ∀ cs : List Char, ('\\' :: cs).flatMap (indentChar indent)
      = '\\' :: cs.flatMap (indentChar indent) := fun _ => rfl
  -- A quote in front of an indented text stands in front of the text.
  have hfront : ∀ cs r : List Char, cs.flatMap (indentChar indent) = '"' :: r →
      ∃ cs', cs = '"' :: cs' ∧ cs'.flatMap (indentChar indent) = r := by
    intro cs r h
    cases cs with
    | nil => cases h
    | cons c cs =>
      by_cases hc : c = '\n'
      · subst hc
        cases h
      · rw [List.flatMap_cons, indentChar_of_ne hc] at h
        obtain ⟨rfl, hr⟩ := List.cons.inj h
        exact ⟨cs, rfl, hr⟩
  induction cs using escapeTripleQuotes_cases with
  | triple r ih =>
    rw [hquote, hquote, hquote, escapeTripleQuotes_triple, escapeTripleQuotes_triple, ih, hslash, hquote, hquote,
      hquote]
  | kept c cs hne ih =>
    rw [escapeTripleQuotes_kept hne, List.flatMap_cons, List.flatMap_cons, ← ih]
    by_cases hc : c = '\n'
    · subst hc
      have hnone : '"' ∉ indentChar indent '\n' := by
        show '"' ∉ '\n' :: indent
        simp [hindent]
      exact escape_append_of_noQuote hnone _
    · rw [indentChar_of_ne hc, List.singleton_append, escapeTripleQuotes_kept]
      · rfl
      · rintro r rfl hr
        obtain ⟨cs', rfl, hr'⟩ := hfront _ _ hr
        obtain ⟨cs'', rfl, -⟩ := hfront _ _ hr'
        exact hne cs'' rfl rfl
  | empty => rfl

end Escaping
end Subgraph.Text

namespace Subgraph.Token
open Text

def tripleQuote : List Char := ['"', '"', '"']

theorem quote_of_escaped {cs tail r : List Char} (hne : cs ≠ []) (hlast : ∀ c ∈ cs.getLast?, c ≠ '"')
    (h : escapeTripleQuotes cs ++ tail = '"' :: r) :
    ∃ cs', cs = '"' :: cs' ∧ cs' ≠ [] ∧ escapeTripleQuotes cs' ++ tail = r
      ∧ ∀ c ∈ cs'.getLast?, c ≠ '"' := by
  have hescaped : escapeTripleQuotes cs ≠ [] := by
    induction cs using escapeTripleQuotes_cases with
    | triple r => exact List.cons_ne_nil _ _
    | kept c r hc =>
      rw [escapeTripleQuotes_kept hc]
      exact List.cons_ne_nil _ _
    | empty => exact absurd rfl hne
  obtain ⟨d, ds, hds⟩ := List.exists_cons_of_ne_nil hescaped
  rw [hds] at h
  obtain ⟨rfl, hr⟩ := List.cons.inj h
  obtain ⟨cs', rfl, rfl⟩ := of_escape_quote hds
  refine ⟨cs', rfl, ?_, hr, fun c hc => hlast c ?_⟩
  · rintro rfl
    exact hlast '"' rfl rfl
  · rw [Option.mem_def, List.getLast?_cons, Option.mem_def.mp hc]
    rfl

theorem scanBlock_escaped (rest : List Char) (done cs : List Char)
    (hlast : ∀ c ∈ cs.getLast?, c ≠ '"' ∧ c ≠ '\\') :
    scanBlock done (escapeTripleQuotes cs ++ (tripleQuote ++ rest))
      = scanBlock (cs.reverse ++ done) (tripleQuote ++ rest) := by
  induction cs using escapeTripleQuotes_cases generalizing done with
  | triple r ih =>
    have hlast' : ∀ c ∈ r.getLast?, c ≠ '"' ∧ c ≠ '\\' := by
      intro c hc
      refine hlast c ?_
      cases r with
      | nil => cases hc
      | cons d r => simpa [List.getLast?_cons_cons] using hc
    show scanBlock done ('\\' :: '"' :: '"' :: '"' :: (escapeTripleQuotes r ++ (tripleQuote ++ rest))) = _
    rw [scanBlock, ih _ hlast']
    simp
  | kept c r hne ih =>
    have hlast' : ∀ d ∈ r.getLast?, d ≠ '"' ∧ d ≠ '\\' := by
      intro d hd
      refine hlast d ?_
      rw [Option.mem_def, List.getLast?_cons, Option.mem_def.mp hd]
      rfl
    have hquote := fun d hd => (hlast' d hd).1
    have hmore : c = '"' ∨ c = '\\' → r ≠ [] := by
      rintro hc rfl
      obtain ⟨hquote, hslash⟩ := hlast c rfl
      rcases hc with hc | hc
      · exact hquote hc
      · exact hslash hc
    rw [escapeTripleQuotes_kept hne, List.cons_append, scanBlock, ih _ hlast']
    · simp
    · rintro t rfl ht
      obtain ⟨r₁, rfl, hne₁, ht₁, hquote₁⟩ := quote_of_escaped (hmore (.inl rfl)) hquote ht
      obtain ⟨r₂, rfl, -, -, -⟩ := quote_of_escaped hne₁ hquote₁ ht₁
      exact hne r₂ rfl rfl
    · rintro t rfl ht
      obtain ⟨r₁, rfl, hne₁, ht₁, hquote₁⟩ := quote_of_escaped (hmore (.inr rfl)) hquote ht
      obtain ⟨r₂, rfl, hne₂, ht₂, hquote₂⟩ := quote_of_escaped hne₁ hquote₁ ht₁
      obtain ⟨r₃, rfl, -, -, -⟩ := quote_of_escaped hne₂ hquote₂ ht₂
      -- Three quotes in a row would have been escaped.
      cases ht
  | empty => rfl

end Subgraph.Token

namespace Subgraph.Text

section Layout

theorem normalizeNewlines_of_noReturn {cs : List Char} (h : '\r' ∉ cs) :
    normalizeNewlines cs = cs := by
  induction cs using normalizeNewlines.induct with
  | case1 r ih => exact absurd List.mem_cons_self h
  | case2 r _ ih => exact absurd List.mem_cons_self h
  | case3 c r _ _ ih =>
    rw [normalizeNewlines.eq_3 c r ‹_› ‹_›, ih fun hr => h (List.mem_cons_of_mem c hr)]
  | case4 => rfl

theorem mem_escapeTripleQuotes {c : Char} (hc : c ≠ '\\') {cs : List Char}
    (h : c ∈ escapeTripleQuotes cs) : c ∈ cs := by
  induction cs using escapeTripleQuotes_cases with
  | triple r ih =>
    rw [escapeTripleQuotes_triple, List.mem_cons] at h
    rcases h with rfl | h
    · exact absurd rfl hc
    · simp only [List.mem_cons] at h ⊢
      rcases h with h | h | h | h
      · exact .inl h
      · exact .inl h
      · exact .inl h
      · exact .inr (.inr (.inr (ih h)))
  | kept d r hne ih =>
    rw [escapeTripleQuotes_kept hne, List.mem_cons] at h
    rcases h with rfl | h
    · exact List.mem_cons_self
    · exact List.mem_cons_of_mem d (ih h)
  | empty => cases h

theorem length_textLines (cs : List Char) : (textLines cs).length = cs.count '\n' + 1 := by
  induction cs with
  | nil => rfl
  | cons c cs ih =>
    by_cases hc : c = '\n'
    · subst hc
      rw [textLines_break, List.length_cons, ih, List.count_cons_self]
    · obtain ⟨l, ls, hls⟩ := textLines_exists cs
      rw [textLines_cons hc hls, List.count_cons_of_ne hc, ← ih, hls]
      rfl

theorem count_escapeTripleQuotes (cs : List Char) :
    (escapeTripleQuotes cs).count '\n' = cs.count '\n' := by
  induction cs using escapeTripleQuotes_cases with
  | triple r ih => simpa [escapeTripleQuotes_triple] using ih
  | kept c r hne ih => rw [escapeTripleQuotes_kept hne, List.count_cons, List.count_cons, ih]
  | empty => rfl

theorem length_lines_escaped {cs : List Char} (h : '\r' ∉ cs) :
    (lines (escapeTripleQuotes cs)).length = (textLines cs).length := by
  rw [lines, normalizeNewlines_of_noReturn fun hr => h (mem_escapeTripleQuotes (by decide) hr)]
  show (textLines (escapeTripleQuotes cs)).length = _
  rw [length_textLines, length_textLines, count_escapeTripleQuotes]

/-- The line feeds that are put around a text between triple quotes. -/
inductive Surrounded (cs : List Char) : Bool → Bool → Prop where
  | closed (single : (textLines cs).length = 1) (last : ∀ c ∈ cs.getLast?, c ≠ '"' ∧ c ≠ '\\') :
      Surrounded cs false false
  | behind (single : (textLines cs).length = 1) (some : cs ≠ []) : Surrounded cs false true
  | around (some : cs ≠ []) (margin : (textLines cs).length = 1 →
      ∀ c ∈ cs.head?, isBlankChar c = false) : Surrounded cs true true

def breakIf (b : Bool) : List Char := if b then ['\n'] else []

theorem ne_of_endsWith {cs : List Char} {c : Char} (h : endsWith cs [c] = false) :
    ∀ d ∈ cs.getLast?, d ≠ c := by
  rintro d hd rfl
  obtain ⟨ds, hds⟩ := List.getLast?_eq_some_iff.mp hd
  have hends : endsWith cs [d] = true := List.isSuffixOf_iff_suffix.mpr ⟨ds, hds.symm⟩
  rw [hends] at h
  cases h

section Parts
variable (cs : List Char)

def isSingle : Bool := decide ((lines (escapeTripleQuotes cs)).length ≤ 1)

/-- All lines behind the first one are empty or start with a blank. -/
def leadsBlank : Bool :=
  !isSingle cs && ((lines (escapeTripleQuotes cs)).drop 1).all fun l =>
    l.isEmpty || l.head?.any isBlankChar

def endsTriple : Bool := endsWith (escapeTripleQuotes cs) ['\\', '"', '"', '"']

/-- The end of the text would run into the closing quotes. -/
def endsOpen : Bool := (endsWith cs ['"'] && !endsTriple cs) || endsWith cs ['\\']

def standsApart : Bool :=
  !isSingle cs || 70 < cs.length || endsOpen cs || leadsBlank cs || endsTriple cs

def keepsFirst : Bool := isSingle cs && (cs.isEmpty || cs.head?.any isBlankChar)

end Parts

theorem layoutBlock_eq (s : String) : (layoutBlock s).toList = Token.tripleQuote
    ++ (breakIf ((standsApart s.toList && !keepsFirst s.toList) || leadsBlank s.toList)
      ++ escapeTripleQuotes s.toList ++ breakIf (standsApart s.toList || endsOpen s.toList)
      ++ Token.tripleQuote) := by
  have hbreak : ∀ b : Bool, (if b then "\n" else "").toList = breakIf b := by decide
  unfold layoutBlock
  simp only [String.toList_append, String.toList_ofList, hbreak, List.append_assoc]
  rfl

theorem surrounded_layoutBlock {cs : List Char} (hcs : '\r' ∉ cs) :
    Surrounded cs ((standsApart cs && !keepsFirst cs) || leadsBlank cs)
      (standsApart cs || endsOpen cs) := by
  have hsingle : isSingle cs = true → (textLines cs).length = 1 := by
    intro h
    have hle := of_decide_eq_true h
    rw [length_lines_escaped hcs, length_textLines] at hle
    rw [length_textLines]
    omega
  cases hapart : standsApart cs with
  | false =>
    simp only [standsApart, Bool.or_eq_false_iff, Bool.not_eq_false'] at hapart
    obtain ⟨⟨⟨⟨hone, -⟩, hopen⟩, hleads⟩, htriple⟩ := hapart
    rw [hopen, hleads]
    simp only [endsOpen, htriple, Bool.not_false, Bool.and_true, Bool.or_eq_false_iff] at hopen
    exact .closed (hsingle hone) fun c hc => ⟨ne_of_endsWith hopen.1 c hc, ne_of_endsWith hopen.2 c hc⟩
  | true =>
    have hsome : cs ≠ [] := by
      rintro rfl
      revert hapart
      decide
    cases hkeeps : keepsFirst cs with
    | true =>
      have hone := (Bool.and_eq_true_iff.mp hkeeps).1
      have hleads : leadsBlank cs = false := by rw [leadsBlank, hone]; rfl
      rw [hleads]
      exact .behind (hsingle hone) hsome
    | false =>
      refine .around hsome fun hone c hc => ?_
      have hone' : isSingle cs = true := by
        refine decide_eq_true (Nat.le_of_eq ?_)
        rw [length_lines_escaped hcs, hone]
      rw [keepsFirst, hone', Bool.true_and, Option.mem_def.mp hc] at hkeeps
      exact (Bool.or_eq_false_iff.mp hkeeps).2

end Layout

section Reading

/-- What a block string says, without its layout. -/
def readBlock (cs : List Char) : String :=
  joinLines ((dedent (textLines (normalizeNewlines cs))).map String.ofList)

variable {indent : List Char} {s : String} {before after : Bool}

theorem joinLines_textLines (s : String) : joinLines ((textLines s.toList).map String.ofList) = s :=
  joinLines_splitLines s

theorem eq_of_textLines_single {cs l : List Char} (h : textLines cs = [l]) : l = cs := by
  have hjoin := intercalate_splitAt '\n' cs
  rw [textLines] at h
  rw [h] at hjoin
  simpa using hjoin

theorem noReturn_indented (hindent : ∀ c ∈ indent, isBlankChar c = true) {cs : List Char}
    (hcs : '\r' ∉ cs) : '\r' ∉ cs.flatMap (indentChar indent) := by
  intro h
  obtain ⟨c, hc, hr⟩ := List.mem_flatMap.mp h
  by_cases hbreak : c = '\n'
  · subst hbreak
    rcases List.mem_cons.mp hr with hr | hr
    · cases hr
    · cases hindent _ hr
  · rw [indentChar_of_ne hbreak] at hr
    exact hcs (List.mem_singleton.mp hr ▸ hc)

theorem Margined.exists_margin {cs : List Char} (h : Margined (textLines cs)) (hne : cs ≠ [])
    (hhead : (textLines cs).length = 1 → ∀ c ∈ cs.head?, isBlankChar c = false) :
    ∃ l ∈ textLines cs, isBlankLine l = false ∧ leadingBlanks l = 0 := by
  rcases h.margin with hone | hmargin
  · obtain ⟨l, hl⟩ := List.length_eq_one_iff.mp hone
    have hfirst := h.first
    rw [hl] at hfirst
    obtain rfl := eq_of_textLines_single hl
    obtain ⟨c, cs, rfl⟩ := List.exists_cons_of_ne_nil hne
    refine ⟨c :: cs, by rw [hl]; exact List.mem_cons_self, hfirst _ rfl, ?_⟩
    rw [leadingBlanks, List.takeWhile_cons_of_neg (by simp [hhead hone c rfl])]
    rfl
  · exact hmargin

theorem readBlock_surrounded (hindent : ∀ c ∈ indent, isBlankChar c = true) (h : HeldByBlock s)
    (hs : Surrounded s.toList before after) :
    readBlock ((breakIf before ++ s.toList ++ breakIf after).flatMap (indentChar indent)) = s := by
  have hbreak : '\n' ∉ indent := fun hn => by cases hindent _ hn
  have hreturn : ∀ b, '\r' ∉ breakIf b := by decide
  have hnormal : '\r' ∉ (breakIf before ++ s.toList ++ breakIf after).flatMap (indentChar indent) := by
    refine noReturn_indented hindent ?_
    simp only [List.mem_append, not_or]
    exact ⟨⟨hreturn _, h.noReturn⟩, hreturn _⟩
  obtain ⟨l, ls, hls⟩ := textLines_exists s.toList
  have hlines := textLines_indented hbreak s.toList hls
  have hindentLine : textLines indent = [indent] :=
    splitAt_of_all fun c hc => beq_eq_false_iff_ne.mpr fun heq => hbreak (heq ▸ hc)
  have hbehind : ∀ cs : List Char, textLines (cs ++ '\n' :: indent) = textLines cs ++ [indent] := by
    intro cs
    rw [textLines, splitAt_append_sep (p := (· == '\n')) rfl, ← hindentLine]
  have hmargined : s.toList ≠ [] → Margined (textLines s.toList) := fun hne =>
    h.lines.resolve_left fun hs => hne (String.toList_eq_nil_iff.mpr hs)
  have hjoin := joinLines_textLines s
  rw [readBlock, normalizeNewlines_of_noReturn hnormal]
  simp only [List.flatMap_append]
  have hsome : (breakIf true).flatMap (indentChar indent) = '\n' :: indent := by
    simp [breakIf, indentChar]
  have hnone : (breakIf false).flatMap (indentChar indent) = [] := rfl
  cases hs with
  | closed single last =>
    obtain rfl : ls = [] := by
      rw [hls, List.length_cons] at single
      exact List.eq_nil_of_length_eq_zero (Nat.succ.inj single)
    rw [hnone, List.nil_append, List.append_nil, hlines, List.map_nil]
    by_cases hne : s.toList = []
    · rw [hne] at hls
      obtain rfl := (List.cons.inj hls).1
      rw [String.toList_eq_nil_iff.mp hne]
      rfl
    · have hfirst := (hmargined hne).first l (by rw [hls]; rfl)
      rw [hls] at hjoin
      rw [dedent_single hfirst, hjoin]
  | behind single hne =>
    obtain rfl : ls = [] := by
      rw [hls, List.length_cons] at single
      exact List.eq_nil_of_length_eq_zero (Nat.succ.inj single)
    have hfirst := (hmargined hne).first l (by rw [hls]; rfl)
    rw [hls] at hjoin
    rw [hnone, hsome, List.nil_append, hbehind, hlines, List.map_nil]
    show joinLines ((dedent [l, indent]).map _) = s
    rw [dedent_line hindent hfirst, hjoin]
  | around hne margin =>
    have hmargin := (hmargined hne).exists_margin hne margin
    have hdedent := dedent_indented hindent (hmargined hne) hmargin
    rw [hsome, hbehind, List.cons_append, textLines_break, textLines_append hbreak hlines,
      ← List.map_cons, ← hls, hdedent, hjoin]

theorem getLast?_surrounded (hindent : ∀ c ∈ indent, isBlankChar c = true) {cs : List Char}
    (hs : Surrounded cs before after) :
    ∀ c ∈ ((breakIf before ++ cs ++ breakIf after).flatMap (indentChar indent)).getLast?,
      c ≠ '"' ∧ c ≠ '\\' := by
  have hbehind : ∀ (head : List Char), ∀ c ∈ (head ++ (breakIf true).flatMap (indentChar indent)).getLast?,
      c ≠ '"' ∧ c ≠ '\\' := by
    intro head c hc
    have hsome : (breakIf true).flatMap (indentChar indent) = '\n' :: indent := by
      simp [breakIf, indentChar]
    rw [hsome, Option.mem_def, List.getLast?_append_of_ne_nil _ (List.cons_ne_nil _ _)] at hc
    rcases List.mem_cons.mp (List.mem_of_getLast? hc) with rfl | hmem
    · decide
    · have hblank := hindent c hmem
      constructor <;> (rintro rfl; cases hblank)
  cases hs with
  | closed single last =>
    have hnone : '\n' ∉ cs := by
      rw [length_textLines] at single
      exact List.count_eq_zero.mp (Nat.succ.inj single)
    have hplain : cs.flatMap (indentChar indent) = cs := by
      rw [List.flatMap_congr fun c hc => indentChar_of_ne fun heq => hnone (heq ▸ hc)]
      simp
    show ∀ c ∈ (([] ++ cs ++ []).flatMap (indentChar indent)).getLast?, c ≠ '"' ∧ c ≠ '\\'
    rw [List.nil_append, List.append_nil, hplain]
    exact last
  | behind => rw [List.flatMap_append]; exact hbehind _
  | around => rw [List.flatMap_append]; exact hbehind _

end Reading
end Subgraph.Text

namespace Subgraph.Token
open Text

theorem starts_layoutBlock {s indent : String} (h : HeldByBlock s)
    (hindent : ∀ c ∈ indent.toList, isBlankChar c = true) (rest : List Char) :
    Starts ((indentAfterNewlines indent (layoutBlock s)).toList ++ rest) (.string s true) rest := by
  have hsurrounded := surrounded_layoutBlock h.noReturn
  have htext := layoutBlock_eq s
  generalize ((standsApart s.toList && !keepsFirst s.toList) || leadsBlank s.toList) = before
    at hsurrounded htext
  generalize (standsApart s.toList || endsOpen s.toList) = after at hsurrounded htext
  have hread := readBlock_surrounded hindent h hsurrounded
  have hlast := getLast?_surrounded hindent hsurrounded
  have hquote : '"' ∉ indent.toList := fun hq => by cases hindent _ hq
  have hbreaks : ∀ b, '"' ∉ breakIf b := by decide
  -- The quotes are escaped in the text alone, as nothing else that is laid out has any.
  have hescaped : escapeTripleQuotes ((breakIf before ++ s.toList ++ breakIf after).flatMap
        (indentChar indent.toList))
      = (breakIf before ++ escapeTripleQuotes s.toList ++ breakIf after).flatMap
        (indentChar indent.toList) := by
    rw [escape_indented hquote, List.append_assoc, escape_append_of_noQuote (hbreaks before),
      escape_append_noQuote (hbreaks after), List.append_assoc]
  have htripled : tripleQuote.flatMap (indentChar indent.toList) = tripleQuote := rfl
  have htoList : (indentAfterNewlines indent (layoutBlock s)).toList ++ rest
      = tripleQuote ++ (escapeTripleQuotes ((breakIf before ++ s.toList ++ breakIf after).flatMap
        (indentChar indent.toList)) ++ (tripleQuote ++ rest)) := by
    rw [indentAfterNewlines, String.toList_ofList, htext, hescaped]
    show (tripleQuote ++ _).flatMap (indentChar indent.toList) ++ rest = _
    rw [List.flatMap_append, List.flatMap_append, htripled, List.append_assoc, List.append_assoc]
  refine starts_of_scanOne ?_ (by intro hl; cases hl)
  have hskip : ∀ cs, skip (tripleQuote ++ cs) = tripleQuote ++ cs := fun cs =>
    skip_of_other (by decide) (by decide) _
  rw [htoList, hskip]
  show scanBlock [] (escapeTripleQuotes _ ++ (tripleQuote ++ rest)) = _
  rw [scanBlock_escaped rest [] _ hlast, List.append_nil]
  show scanBlock _ ('"' :: '"' :: '"' :: rest) = _
  rw [scanBlock, List.reverse_reverse]
  show Except.ok (Lexeme.string (readBlock _) true, rest) = _
  rw [hread]

end Subgraph.Token
