import Subgraph.Proofs.BlockText
import Subgraph.Proofs.NumberText

/-!
# Tokens that can be written

Every token that is taken off a text can be written again: a name is one, a number has the parts of a
number, and what is left of a block string when its indentation is taken away is held by a block string.
-/

namespace Subgraph.Text

section Blanks
variable {ls : List (List Char)} {l : List Char}

theorem mem_dropBlankEnds (h : l ∈ dropBlankEnds ls) : l ∈ ls := by
  have hmem := (List.dropWhile_suffix _).subset (List.mem_reverse.mp h)
  exact (List.dropWhile_suffix _).subset (List.mem_reverse.mp hmem)

theorem mem_dropWhile_blank (h : l ∈ ls) (hl : isBlankLine l = false) : l ∈ ls.dropWhile isBlankLine := by
  rw [← List.takeWhile_append_dropWhile (p := isBlankLine) (l := ls)] at h
  rcases List.mem_append.mp h with h | h
  · rw [List.all_eq_true.mp (List.all_takeWhile (p := isBlankLine)) l h] at hl
    cases hl
  · exact h

theorem mem_dropBlankEnds_of_mem (h : l ∈ ls) (hl : isBlankLine l = false) : l ∈ dropBlankEnds ls :=
  List.mem_reverse.mpr (mem_dropWhile_blank (List.mem_reverse.mpr (mem_dropWhile_blank h hl)) hl)

theorem head?_dropWhile_blank (ls : List (List Char)) :
    ∀ l ∈ (ls.dropWhile isBlankLine).head?, isBlankLine l = false := by
  intro l hl
  have hhead := List.head?_dropWhile_not isBlankLine ls
  rwa [Option.mem_def.mp hl] at hhead

theorem last_dropBlankEnds : ∀ l ∈ (dropBlankEnds ls).getLast?, isBlankLine l = false := by
  rw [dropBlankEnds, List.getLast?_reverse]
  exact head?_dropWhile_blank _

theorem first_dropBlankEnds : ∀ l ∈ (dropBlankEnds ls).head?, isBlankLine l = false := by
  intro l hl
  rw [dropBlankEnds, List.head?_reverse] at hl
  obtain ⟨dropped, hdropped⟩ := List.dropWhile_suffix (p := isBlankLine)
    (l := (ls.dropWhile isBlankLine).reverse)
  have hlast := congrArg List.getLast? hdropped
  rw [List.getLast?_append, Option.mem_def.mp hl, Option.some_or, List.getLast?_reverse] at hlast
  exact head?_dropWhile_blank ls l hlast.symm

theorem dropBlankEnds_first {first : List Char} {rest : List (List Char)} (hfirst : isBlankLine first = false)
    (hrest : ∀ l ∈ rest, isBlankLine l = true) : dropBlankEnds (first :: rest) = [first] := by
  have hkeep : (first :: rest).dropWhile isBlankLine = first :: rest :=
    List.dropWhile_cons_of_neg (by simp [hfirst])
  rw [dropBlankEnds, hkeep, List.reverse_cons,
    List.dropWhile_append_of_pos fun l hl => hrest l (List.mem_reverse.mp hl),
    List.dropWhile_cons_of_neg (by simp [hfirst])]
  rfl

theorem dropBlankEnds_blank (h : ∀ l ∈ ls, isBlankLine l = true) : dropBlankEnds ls = [] := by
  have hnone : ls.dropWhile isBlankLine = [] := by
    rw [← List.append_nil ls, List.dropWhile_append_of_pos h]
    rfl
  rw [dropBlankEnds, hnone]
  rfl

theorem drop_leadingBlanks (l : List Char) : l.drop (leadingBlanks l) = l.dropWhile isBlankChar := by
  induction l with
  | nil => rfl
  | cons c l ih =>
    cases hc : isBlankChar c with
    | true =>
      rw [leadingBlanks, List.takeWhile_cons_of_pos hc, List.dropWhile_cons_of_pos hc, List.length_cons,
        List.drop_succ_cons]
      exact ih
    | false =>
      rw [leadingBlanks, List.takeWhile_cons_of_neg (by simp [hc]), List.dropWhile_cons_of_neg (by simp [hc])]
      rfl

theorem unindented (hl : isBlankLine l = false) :
    isBlankLine (l.drop (leadingBlanks l)) = false ∧ leadingBlanks (l.drop (leadingBlanks l)) = 0 := by
  rw [drop_leadingBlanks]
  have hhead := List.head?_dropWhile_not isBlankChar l
  cases hrest : l.dropWhile isBlankChar with
  | nil =>
    have hall : l.all isBlankChar = true := by
      rw [← List.takeWhile_append_dropWhile (p := isBlankChar) (l := l), hrest, List.append_nil]
      exact List.all_takeWhile
    rw [isBlankLine, hall] at hl
    cases hl
  | cons c r =>
    rw [hrest] at hhead
    have hc : isBlankChar c = false := hhead
    refine ⟨?_, ?_⟩
    · rw [isBlankLine, List.all_cons, hc]
      rfl
    · rw [leadingBlanks, List.takeWhile_cons_of_neg (by simp [hc])]
      rfl

theorem margined_dedent (hne : dedent ls ≠ []) : Margined (dedent ls) := by
  cases ls with
  | nil => exact absurd rfl hne
  | cons first rest =>
    have heq : dedent (first :: rest)
        = dropBlankEnds (first :: rest.map (·.drop ((commonIndent (first :: rest)).getD 0))) := rfl
    refine ⟨by rw [heq]; exact first_dropBlankEnds, by rw [heq]; exact last_dropBlankEnds, ?_⟩
    rw [heq] at hne ⊢
    cases hindent : commonIndent (first :: rest) with
    | some m =>
      rw [hindent] at hne
      obtain ⟨l, hl, rfl⟩ := List.mem_map.mp (List.min?_eq_some_iff.mp hindent).1
      obtain ⟨hmem, hblank⟩ := List.mem_filter.mp hl
      obtain ⟨htext, hzero⟩ := unindented (l := l) (by simpa using hblank)
      refine .inr ⟨l.drop (leadingBlanks l), mem_dropBlankEnds_of_mem ?_ htext, htext, hzero⟩
      exact List.mem_cons_of_mem first (List.mem_map_of_mem (f := fun k => k.drop (leadingBlanks l)) hmem)
    | none =>
      have hrest : ∀ l ∈ rest, isBlankLine l = true := by
        have hnone := List.map_eq_nil_iff.mp (List.min?_eq_none_iff.mp hindent)
        intro l hl
        simpa using List.filter_eq_nil_iff.mp hnone l hl
      have hkept : rest.map (·.drop (Option.getD none 0)) = rest := List.map_id rest
      rw [hindent, hkept] at hne
      rw [hkept]
      cases hfirst : isBlankLine first with
      | false => exact .inl (by rw [dropBlankEnds_first hfirst hrest]; rfl)
      | true => exact absurd (dropBlankEnds_blank (List.forall_mem_cons.mpr ⟨hfirst, hrest⟩)) hne

theorem mem_dedent {c : Char} (hl : l ∈ dedent ls) (hc : c ∈ l) : ∃ l' ∈ ls, c ∈ l' := by
  cases ls with
  | nil => cases hl
  | cons first rest =>
    rcases List.mem_cons.mp (mem_dropBlankEnds hl) with rfl | hmem
    · exact ⟨l, List.mem_cons_self, hc⟩
    · obtain ⟨k, hk, rfl⟩ := List.mem_map.mp hmem
      exact ⟨k, List.mem_cons_of_mem first hk, List.mem_of_mem_drop hc⟩

end Blanks

section Blocks

theorem noReturn_normalizeNewlines (cs : List Char) : '\r' ∉ normalizeNewlines cs := by
  induction cs using normalizeNewlines.induct with
  | case1 r ih =>
    rw [normalizeNewlines]
    exact fun h => (List.mem_cons.mp h).elim (by decide) ih
  | case2 r hr ih =>
    rw [normalizeNewlines.eq_2 r hr]
    exact fun h => (List.mem_cons.mp h).elim (by decide) ih
  | case3 c r hbreak hreturn ih =>
    rw [normalizeNewlines.eq_3 c r hbreak hreturn]
    exact fun h => (List.mem_cons.mp h).elim (fun heq => hreturn heq.symm) ih
  | case4 => exact List.not_mem_nil

theorem mem_of_mem_splitAt {p : Char → Bool} {cs l : List Char} (hl : l ∈ splitAt p cs)
    {c : Char} (hc : c ∈ l) : c ∈ cs := by
  induction cs generalizing l with
  | nil =>
    rw [List.mem_singleton.mp hl] at hc
    cases hc
  | cons d cs ih =>
    cases hd : p d with
    | true =>
      rw [splitAt_cons_sep hd] at hl
      rcases List.mem_cons.mp hl with rfl | hl
      · cases hc
      · exact List.mem_cons_of_mem d (ih hl hc)
    | false =>
      obtain ⟨first, rest, hsplit, hcons⟩ := splitAt_cons_other hd cs
      rw [hcons] at hl
      rw [hsplit] at ih
      rcases List.mem_cons.mp hl with rfl | hl
      · rcases List.mem_cons.mp hc with rfl | hc
        · exact List.mem_cons_self
        · exact List.mem_cons_of_mem d (ih List.mem_cons_self hc)
      · exact List.mem_cons_of_mem d (ih (List.mem_cons_of_mem first hl) hc)

theorem mem_joinLines {ls : List String} {c : Char} (hc : c ∈ (joinLines ls).toList) :
    c = '\n' ∨ ∃ l ∈ ls, c ∈ l.toList := by
  induction ls with
  | nil => cases hc
  | cons l ls ih =>
    cases ls with
    | nil =>
      rw [joinLines, String.intercalate_singleton] at hc
      exact .inr ⟨l, List.mem_cons_self, hc⟩
    | cons l' ls =>
      rw [joinLines, String.intercalate_cons_cons, String.toList_append, String.toList_append] at hc
      rcases List.mem_append.mp hc with hc | hc
      · rcases List.mem_append.mp hc with hc | hc
        · exact .inr ⟨l, List.mem_cons_self, hc⟩
        · exact .inl (List.mem_singleton.mp hc)
      · rcases ih hc with hbreak | ⟨k, hk, hck⟩
        · exact .inl hbreak
        · exact .inr ⟨k, List.mem_cons_of_mem l hk, hck⟩

theorem heldByBlock_readBlock (cs : List Char) : HeldByBlock (readBlock cs) := by
  have hchars : ∀ l ∈ dedent (textLines (normalizeNewlines cs)), ∀ c ∈ l, (c == '\n') = false ∧ c ≠ '\r' := by
    intro l hl c hc
    obtain ⟨l', hl', hc'⟩ := mem_dedent hl hc
    refine ⟨not_sep_of_mem_splitAt hl' c hc', ?_⟩
    rintro rfl
    exact noReturn_normalizeNewlines cs (mem_of_mem_splitAt hl' hc')
  unfold readBlock
  generalize hls : dedent (textLines (normalizeNewlines cs)) = ls at hchars
  have hlines : ∀ l ∈ ls.map String.ofList, ∀ c ∈ l.toList, (c == '\n') = false ∧ c ≠ '\r' := by
    intro l hl
    obtain ⟨k, hk, rfl⟩ := List.mem_map.mp hl
    rw [String.toList_ofList]
    exact hchars k hk
  refine ⟨fun hr => ?_, ?_⟩
  · rcases mem_joinLines hr with hbreak | ⟨l, hl, hr⟩
    · cases hbreak
    · exact (hlines l hl _ hr).2 rfl
  · cases hne : ls with
    | nil => exact .inl rfl
    | cons l rest =>
      have hsplit : splitLines ("\n".intercalate (ls.map String.ofList)) = ls.map String.ofList :=
        splitLines_intercalate (by rw [hne]; exact List.cons_ne_nil _ _) fun k hk c hc => (hlines k hk c hc).1
      have htext : textLines (joinLines (ls.map String.ofList)).toList = ls :=
        List.map_injective_iff.mpr (fun _ _ heq => String.ofList_injective heq) hsplit
      refine .inr ?_
      rw [← hne, htext, ← hls]
      exact margined_dedent (by rw [hls, hne]; exact List.cons_ne_nil _ _)

end Blocks
end Subgraph.Text

namespace Subgraph
open Token

/-- A lexeme that can be written. -/
def Lexeme.IsLegible : Lexeme → Prop
  | .name s => isName s = true
  | .int s => IsIntText s
  | .float s => IsFloatText s
  | .string s block => block = true → Text.HeldByBlock s
  | _ => True

end Subgraph

namespace Subgraph.Token
open Text

section Numbers
variable {cs rest : List Char}

theorem digits_of_scanDigits {ds : List Char} (h : scanDigits cs = .ok (ds, rest)) :
    Digits ds ∧ ds.head? = cs.head? := by
  unfold scanDigits at h
  split at h
  · cases h
  · next hne =>
    obtain ⟨rfl, -⟩ := Prod.mk.inj (Except.ok.inj h)
    refine ⟨⟨hne, List.all_takeWhile⟩, ?_⟩
    cases cs with
    | nil => exact absurd rfl hne
    | cons c cs =>
      cases hc : isDigit c with
      | true => rw [List.takeWhile_cons_of_pos hc]; rfl
      | false => rw [List.takeWhile_cons_of_neg (by simp [hc])] at hne; exact absurd rfl hne

theorem whole_of_scanWhole {ds : List Char} (h : scanWhole cs = .ok (ds, rest)) : WholeDigits ds := by
  unfold scanWhole at h
  split at h
  · split at h
    · cases h
    · obtain ⟨rfl, -⟩ := Prod.mk.inj (Except.ok.inj h)
      exact .inl rfl
  · next hzero =>
    obtain ⟨hdigits, hhead⟩ := digits_of_scanDigits h
    refine .inr ⟨hdigits, fun heq => ?_⟩
    rw [hhead] at heq
    cases cs with
    | nil => cases heq
    | cons c cs => exact hzero cs (by rw [Option.some.inj heq])

theorem fraction_of_scanFraction {ds : List Char} (h : scanFraction cs = .ok (ds, rest)) : IsFraction ds := by
  unfold scanFraction at h
  split at h
  · obtain ⟨⟨ds', rest'⟩, hdigits, h⟩ := Except.of_bind_ok h
    obtain ⟨rfl, -⟩ := Prod.mk.inj (Except.ok.inj h)
    exact .inr ⟨ds', rfl, (digits_of_scanDigits hdigits).1⟩
  · obtain ⟨rfl, -⟩ := Prod.mk.inj (Except.ok.inj h)
    exact .inl rfl

theorem sign_scanSign (cs : List Char) :
    (scanSign cs).1 = [] ∨ (scanSign cs).1 = ['+'] ∨ (scanSign cs).1 = ['-'] := by
  unfold scanSign
  split
  · exact .inr (.inl rfl)
  · exact .inr (.inr rfl)
  · exact .inl rfl

theorem exponent_of_scanExponent {ds : List Char} (h : scanExponent cs = .ok (ds, rest)) : IsExponent ds := by
  unfold scanExponent at h
  split at h
  · next c r =>
    split at h
    · next hletter =>
      obtain ⟨⟨ds', rest'⟩, hdigits, h⟩ := Except.of_bind_ok h
      obtain ⟨rfl, -⟩ := Prod.mk.inj (Except.ok.inj h)
      exact .inr ⟨c, _, ds', rfl, hletter, sign_scanSign r, (digits_of_scanDigits hdigits).1⟩
    · obtain ⟨rfl, -⟩ := Prod.mk.inj (Except.ok.inj h)
      exact .inl rfl
  · obtain ⟨rfl, -⟩ := Prod.mk.inj (Except.ok.inj h)
    exact .inl rfl

theorem parts_of_scanNumber {l : Lexeme} (h : scanNumber cs = .ok (l, rest)) :
    ∃ s, l = .int s ∧ IsIntText s ∨ l = .float s ∧ IsFloatText s := by
  unfold scanNumber at h
  split at h
  next minus signless hsign =>
  have hminus : minus = [] ∨ minus = ['-'] := by
    split at hsign <;> cases hsign
    · exact .inr rfl
    · exact .inl rfl
  obtain ⟨⟨whole, r⟩, hwhole, h⟩ := Except.of_bind_ok h
  obtain ⟨⟨fraction, r'⟩, hfraction, h⟩ := Except.of_bind_ok h
  obtain ⟨⟨exponent, r''⟩, hexponent, h⟩ := Except.of_bind_ok h
  dsimp only at h
  split at h
  · cases h
  obtain ⟨rfl, -⟩ := Prod.mk.inj (Except.ok.inj h)
  have hparts : NumberParts (String.ofList (minus ++ whole ++ fraction ++ exponent)).toList
      minus whole fraction exponent := by
    refine ⟨?_, hminus, whole_of_scanWhole hwhole, fraction_of_scanFraction hfraction,
      exponent_of_scanExponent hexponent⟩
    rw [String.toList_ofList, List.append_assoc, List.append_assoc]
  refine ⟨String.ofList (minus ++ whole ++ fraction ++ exponent), ?_⟩
  split
  · next hempty =>
    obtain ⟨hnone, hnone'⟩ := Bool.and_eq_true_iff.mp hempty
    rw [List.isEmpty_iff] at hnone hnone'
    rw [hnone, hnone'] at hparts
    exact .inl ⟨rfl, minus, whole, by rw [hnone, hnone']; exact hparts⟩
  · next hsome =>
    refine .inr ⟨rfl, minus, whole, fraction, exponent, hparts, fun hnone => hsome ?_⟩
    rw [hnone.1, hnone.2]
    rfl

end Numbers

section Lexemes
variable {cs rest : List Char} {l : Lexeme}

theorem legible_scanQuoted {fuel : Nat} {done : List Char} (h : scanQuoted fuel done cs = .ok (l, rest)) :
    l.IsLegible := by
  induction fuel generalizing done cs with
  | zero => cases h
  | succ fuel ih =>
    unfold scanQuoted at h
    split at h
    · cases h
    · obtain ⟨rfl, -⟩ := Prod.mk.inj (Except.ok.inj h)
      exact nofun
    · split at h
      · exact ih h
      · cases h
    · split at h
      · cases h
      · exact ih h

theorem legible_scanBlock {done : List Char} (h : scanBlock done cs = .ok (l, rest)) : l.IsLegible := by
  induction done, cs using scanBlock.induct with
  | case1 => cases h
  | case2 done r =>
    rw [scanBlock] at h
    obtain ⟨rfl, -⟩ := Prod.mk.inj (Except.ok.inj h)
    exact fun _ => heldByBlock_readBlock done.reverse
  | case3 done r ih =>
    rw [scanBlock] at h
    exact ih h
  | case4 done c r h1 h2 ih =>
    rw [scanBlock] at h
    · exact ih h
    · exact h1
    · exact h2

theorem legible_scanOne (h : scanOne cs = .ok (l, rest)) : l.IsLegible := by
  unfold scanOne at h
  split at h
  · obtain ⟨rfl, -⟩ := Prod.mk.inj (Except.ok.inj h)
    trivial
  · exact legible_scanBlock h
  · exact legible_scanQuoted h
  · obtain ⟨rfl, -⟩ := Prod.mk.inj (Except.ok.inj h)
    trivial
  · next c r _ _ _ =>
    split at h
    · obtain ⟨rfl, -⟩ := Prod.mk.inj (Except.ok.inj h)
      trivial
    · split at h
      · obtain ⟨s, ⟨rfl, hs⟩ | ⟨rfl, hs⟩⟩ := parts_of_scanNumber h
        · exact hs
        · exact hs
      · split at h
        · next hstart =>
          obtain ⟨rfl, -⟩ := Prod.mk.inj (Except.ok.inj h)
          have htake := List.takeWhile_cons_of_pos (l := r) (isNameChar_of_isNameStart hstart)
          show isName _ = true
          rw [isName, String.toList_ofList, List.all_takeWhile, Bool.and_true, htake]
          exact hstart
        · split at h <;> cases h

theorem legible_tokens (size : Nat) (cs : List Char) : ∀ t ∈ tokens size cs, t.lexeme.IsLegible := by
  induction hn : cs.length using Nat.strongRecOn generalizing cs with
  | ind n ih =>
    rw [tokens_eq]
    cases hscan : scanOne (skip cs) with
    | error f => exact fun t ht => by rw [List.mem_singleton.mp ht]; trivial
    | ok r =>
      obtain ⟨l, rest⟩ := r
      have hl := legible_scanOne hscan
      by_cases hfinish : l = .finish
      · subst hfinish
        exact fun t ht => by rw [List.mem_singleton.mp ht]; trivial
      · have hlt := length_of_scanOne hscan hfinish
        have hle := length_skip_le cs
        have hrest := ih rest.length (by omega) rest rfl
        cases l with
        | finish => exact absurd rfl hfinish
        | _ => exact List.forall_mem_cons.mpr ⟨hl, hrest⟩

end Lexemes
end Subgraph.Token
