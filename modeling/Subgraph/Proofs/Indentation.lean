import Subgraph.Proofs.Lines
import Subgraph.Schema.Printer

/-!
# Indented lines of descriptions

The lines of a schema definition that name roots are told from those of its description by their
indentation. A scan over the characters finds an indented line, and neither the quotes around a
description nor the escapes in it make one.
-/

namespace Subgraph.Text

/-- How far a scan is from the start of a line. -/
inductive Column where
  | start
  | second
  | later

/-- The column after a character. -/
def Column.next (k : Column) (c : Char) : Column :=
  if c = '\n' then .start
  else match k with
    | .start => if c = ' ' then .second else .later
    | _ => .later

def Column.isSecond : Column → Bool
  | .second => true
  | _ => false

/-- Whether two spaces start one of the lines of a text that begins at a column. -/
def scanIndent : Column → List Char → Bool
  | _, [] => false
  | k, c :: cs => (k.isSecond && c == ' ') || scanIndent (k.next c) cs

theorem scanIndent_cons_of_ne {c : Char} (hspace : c ≠ ' ') (hbreak : c ≠ '\n') (k : Column)
    (cs : List Char) : scanIndent k (c :: cs) = scanIndent .later cs := by
  cases k <;> simp [scanIndent, Column.next, Column.isSecond, hspace, hbreak]

theorem scanIndent_break (k : Column) (cs : List Char) :
    scanIndent k ('\n' :: cs) = scanIndent .start cs := by
  cases k <;> simp [scanIndent, Column.next, Column.isSecond]

theorem scanIndent_later_cons (c : Char) (cs : List Char) :
    scanIndent .later (c :: cs) = scanIndent (Column.later.next c) cs := by
  simp [scanIndent, Column.isSecond]

theorem next_later {c : Char} (hbreak : c ≠ '\n') : Column.later.next c = .later := by
  simp [Column.next, hbreak]

theorem scanIndent_of_later {k : Column} {cs : List Char} (h : scanIndent .later cs = true) :
    scanIndent k cs = true := by
  induction cs generalizing k with
  | nil => cases h
  | cons c cs ih =>
    by_cases hbreak : c = '\n'
    · subst hbreak
      rw [scanIndent_break] at h ⊢
      exact h
    · have hrest : scanIndent .later cs = true := by
        rw [scanIndent_later_cons, next_later hbreak] at h
        exact h
      by_cases hspace : c = ' '
      · subst hspace
        cases k with
        | second => rfl
        | start => exact ih hrest
        | later => exact hrest
      · rw [scanIndent_cons_of_ne hspace hbreak]
        exact hrest

theorem scanIndent_later_of_noBreak {cs : List Char} (h : '\n' ∉ cs) :
    scanIndent .later cs = false := by
  induction cs with
  | nil => rfl
  | cons c cs ih =>
    rw [List.mem_cons, not_or] at h
    rw [scanIndent_later_cons, next_later (Ne.symm h.1)]
    exact ih h.2

/-- The start of a line, as far as it has been read. -/
def startsIndented : Column → List Char → Bool
  | .start, ' ' :: ' ' :: _ => true
  | .second, ' ' :: _ => true
  | _, _ => false

theorem scanIndent_eq_lines (cs : List Char) {l : List Char} {ls : List (List Char)}
    (h : splitAt (· == '\n') cs = l :: ls) (k : Column) :
    scanIndent k cs = (startsIndented k l || ls.any (startsIndented .start)) := by
  -- By induction on the text, where the column tells how much of the line was seen.
  induction cs generalizing l ls k with
  | nil =>
    obtain ⟨rfl, rfl⟩ := List.cons.inj h
    cases k <;> rfl
  | cons c cs ih =>
    by_cases hbreak : c = '\n'
    · subst hbreak
      rw [splitAt_cons_sep (p := (· == '\n')) rfl] at h
      obtain ⟨rfl, rfl⟩ := List.cons.inj h
      have hcolumn : startsIndented k [] = false := by cases k <;> rfl
      rw [scanIndent_break, hcolumn, Bool.false_or]
      cases hrest : splitAt (· == '\n') cs with
      | nil => exact absurd hrest (splitAt_ne_nil _ _)
      | cons l' ls' => rw [ih hrest, List.any_cons]
    · obtain ⟨l', ls', hrest, hcons⟩ :=
        splitAt_cons_other (p := (· == '\n')) (beq_eq_false_iff_ne.mpr hbreak) cs
      rw [hcons] at h
      obtain ⟨rfl, rfl⟩ := List.cons.inj h
      by_cases hspace : c = ' '
      · subst hspace
        cases k with
        | second => rfl
        | later =>
          rw [scanIndent_later_cons, next_later hbreak, ih hrest]
          rfl
        | start =>
          have hstep : scanIndent .start (' ' :: cs) = scanIndent .second cs := rfl
          rw [hstep, ih hrest]
          cases l' with
          | nil => rfl
          | cons d l' =>
            by_cases hd : d = ' '
            · subst hd; rfl
            · simp [startsIndented, hd]
      · rw [scanIndent_cons_of_ne hspace hbreak, ih hrest]
        cases k <;> simp [startsIndented, hspace]

theorem isIndented_ofList (l : List Char) :
    isIndented (String.ofList l) = startsIndented .start l := by
  apply Bool.eq_iff_iff.mpr
  rw [isIndented_iff]
  constructor
  · rintro ⟨rest, h⟩
    have hl : l = ' ' :: ' ' :: rest.toList := by simpa using congrArg String.toList h
    rw [hl]
    rfl
  · intro h
    unfold startsIndented at h
    split at h
    · next r _ => exact ⟨String.ofList r, String.toList_injective (by simp)⟩
    · contradiction
    · cases h

/-- The scan agrees with looking at the lines. -/
theorem hasIndentedLine_eq_scan (s : String) : hasIndentedLine s = scanIndent .start s.toList := by
  rw [hasIndentedLine, splitLines, List.any_map]
  cases h : splitAt (· == '\n') s.toList with
  | nil => exact absurd h (splitAt_ne_nil _ _)
  | cons l ls =>
    rw [scanIndent_eq_lines s.toList h]
    simp only [List.any_cons, isIndented_ofList, Function.comp_def]

theorem scanIndent_append {k : Column} {a b : List Char} (h : scanIndent k a = false)
    (hb : ∀ k, scanIndent k b = false) : scanIndent k (a ++ b) = false := by
  induction a generalizing k with
  | nil => exact hb k
  | cons c a ih =>
    rw [scanIndent, Bool.or_eq_false_iff] at h
    rw [List.cons_append, scanIndent, h.1, Bool.false_or]
    exact ih h.2

theorem scanIndent_escapeTripleQuotes (k : Column) (cs : List Char) :
    scanIndent k (escapeTripleQuotes cs) = scanIndent k cs := by
  induction cs using escapeTripleQuotes_cases generalizing k with
  | triple r ih =>
    have hquote : ∀ (k : Column) (cs : List Char), scanIndent k ('"' :: cs) = scanIndent .later cs :=
      scanIndent_cons_of_ne (by decide) (by decide)
    have hslash : ∀ (k : Column) (cs : List Char), scanIndent k ('\\' :: cs) = scanIndent .later cs :=
      scanIndent_cons_of_ne (by decide) (by decide)
    rw [escapeTripleQuotes_triple, hslash, hquote, hquote, hquote, hquote, hquote, hquote, ih]
  | kept c r h ih =>
    rw [escapeTripleQuotes_kept h, scanIndent, scanIndent, ih]
  | empty => rfl

/-- The characters that stand in an escape. -/
def escapeMarks : List Char :=
  ['\\', 'u', '"', 'b', 'f', 'n', 'r', 't', '0', '1', '2', '3', '4', '5', '6', '7', '8', '9',
    'A', 'B', 'C', 'D', 'E', 'F']

theorem mem_escapeChar {c d : Char} (h : d ∈ escapeChar c) :
    d ∈ escapeMarks ∨ d = c ∧ escapeLetter? c = none := by
  unfold escapeChar at h
  cases hletter : escapeLetter? c with
  | some e =>
    rw [hletter] at h
    have hmarks : e ∈ escapeMarks := by
      unfold escapeLetter? at hletter
      repeat' split at hletter
      all_goals cases hletter
      all_goals decide
    rcases List.mem_cons.mp h with rfl | h
    · exact .inl List.mem_cons_self
    · rw [List.mem_singleton.mp h]
      exact .inl hmarks
  | none =>
    rw [hletter] at h
    cases hcontrol : isControl c with
    | false =>
      simp only [hcontrol, Bool.false_eq_true, if_false] at h
      exact .inr ⟨List.mem_singleton.mp h, rfl⟩
    | true =>
      have hsmall : c.toNat < 160 := by
        simp only [isControl, Bool.or_eq_true, Bool.and_eq_true, decide_eq_true_eq] at hcontrol
        omega
      have hall : ∀ n < 160, ('\\' :: 'u' :: upperHex 4 n).all escapeMarks.contains = true := by
        decide +kernel
      simp only [hcontrol, if_true] at h
      have hmark : escapeMarks.contains d = true := List.all_eq_true.mp (hall c.toNat hsmall) d h
      exact .inl (List.contains_iff_mem.mp hmark)

theorem noBreak_escapeChar (c : Char) : '\n' ∉ escapeChar c := by
  intro h
  rcases mem_escapeChar h with h | ⟨rfl, h⟩
  · exact absurd h (by decide)
  · simp [escapeLetter?] at h

theorem scanIndent_quote (s : String) : scanIndent .start (quote s).toList = false := by
  have hbreak : '\n' ∉ s.toList.flatMap escapeChar ++ ['"'] := by
    intro h
    rcases List.mem_append.mp h with h | h
    · obtain ⟨c, -, hc⟩ := List.mem_flatMap.mp h
      exact noBreak_escapeChar c hc
    · cases List.mem_singleton.mp h
  rw [quote, String.toList_ofList, List.cons_append,
    scanIndent_cons_of_ne (by decide) (by decide)]
  exact scanIndent_later_of_noBreak hbreak

theorem scanIndent_layoutBlock {s : String} (h : hasIndentedLine s = false) :
    scanIndent .start (layoutBlock s).toList = false := by
  have hquote : ∀ (k : Column) (cs : List Char), scanIndent k ('"' :: cs) = scanIndent .later cs :=
    scanIndent_cons_of_ne (by decide) (by decide)
  have hescaped : scanIndent .start (escapeTripleQuotes s.toList) = false := by
    rw [scanIndent_escapeTripleQuotes, ← hasIndentedLine_eq_scan]
    exact h
  have hlater : scanIndent .later (escapeTripleQuotes s.toList) = false := by
    cases hl : scanIndent .later (escapeTripleQuotes s.toList) with
    | false => rfl
    | true => rw [scanIndent_of_later hl] at hescaped; cases hescaped
  have hend : ∀ k, scanIndent k ['"', '"', '"'] = false := by
    intro k
    rw [hquote, hquote, hquote]
    rfl
  -- The closing quotes may stand on a line of their own.
  have hafter : ∀ (b : Bool) (k : Column),
      scanIndent k ((if b then "\n" else "").toList ++ ['"', '"', '"']) = false := by
    intro b k
    cases b with
    | false => exact hend k
    | true => exact (scanIndent_break k _).trans (hend .start)
  have hall : ∀ b b' : Bool, scanIndent .start ("\"\"\"" ++ (if b then "\n" else "")
      ++ String.ofList (escapeTripleQuotes s.toList) ++ (if b' then "\n" else "")
      ++ "\"\"\"").toList = false := by
    intro b b'
    have htail := scanIndent_append hescaped (hafter b')
    have htail' := scanIndent_append hlater (hafter b')
    cases b with
    | false =>
      have hlist : ("\"\"\"" ++ (if false then "\n" else "")
          ++ String.ofList (escapeTripleQuotes s.toList) ++ (if b' then "\n" else "")
          ++ "\"\"\"").toList = '"' :: '"' :: '"' :: (escapeTripleQuotes s.toList
            ++ ((if b' then "\n" else "").toList ++ ['"', '"', '"'])) := by simp
      rw [hlist, hquote, hquote, hquote]
      exact htail'
    | true =>
      have hlist : ("\"\"\"" ++ (if true then "\n" else "")
          ++ String.ofList (escapeTripleQuotes s.toList) ++ (if b' then "\n" else "")
          ++ "\"\"\"").toList = '"' :: '"' :: '"' :: '\n' :: (escapeTripleQuotes s.toList
            ++ ((if b' then "\n" else "").toList ++ ['"', '"', '"'])) := by simp
      rw [hlist, hquote, hquote, hquote, scanIndent_break]
      exact htail
  exact hall _ _

theorem indentAfterNewlines_empty (s : String) : indentAfterNewlines "" s = s := by
  have hsame : ∀ cs : List Char,
      (cs.flatMap fun c => if c = '\n' then '\n' :: "".toList else [c]) = cs := by
    intro cs
    induction cs with
    | nil => rfl
    | cons c cs ih =>
      rw [List.flatMap_cons, ih]
      by_cases hc : c = '\n' <;> simp [hc]
  rw [indentAfterNewlines, hsame, String.ofList_toList]

theorem hasIndentedLine_printDescription {description : Option String}
    (h : ∀ d, description = some d → hasIndentedLine d = false) :
    hasIndentedLine (printDescription description "" true) = false := by
  have hend : ∀ k, scanIndent k ['\n'] = false := fun k => by rw [scanIndent_break]; rfl
  cases description with
  | none => rfl
  | some d =>
    have hwritten : scanIndent .start
        (if fitsBlock d then layoutBlock d else quote d).toList = false := by
      split
      · exact scanIndent_layoutBlock (h d rfl)
      · exact scanIndent_quote d
    rw [hasIndentedLine_eq_scan, printDescription]
    simp only [indentAfterNewlines_empty]
    have happend := scanIndent_append hwritten hend
    simpa using happend

end Subgraph.Text
