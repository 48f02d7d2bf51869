import Subgraph.Proofs.Lists
import Subgraph.Document.Token

/-!
# How a text falls into tokens

A scan takes one token after another off the front of a text, so the tokens of a text are those of its
parts, one part after another, where nothing runs into the next part.
-/

namespace Subgraph.Token
open Text

section Shrinking

theorem length_skipSeparators_le (fuel : Nat) (cs : List Char) :
    (skipSeparators fuel cs).length ≤ cs.length := by
  induction fuel generalizing cs with
  | zero => exact Nat.le_refl _
  | succ fuel ih =>
    unfold skipSeparators
    split
    · exact Nat.le_refl _
    · next r =>
      have hdrop := (List.dropWhile_suffix (l := r) (p := (!isCommentEnd ·))).length_le
      exact Nat.le_trans (ih _) (Nat.le_succ_of_le hdrop)
    · next c r _ =>
      split
      · exact Nat.le_succ_of_le (ih _)
      · exact Nat.le_refl _

theorem length_of_scanDigits {cs ds rest : List Char} (h : scanDigits cs = .ok (ds, rest)) :
    rest.length < cs.length := by
  unfold scanDigits at h
  split at h
  · cases h
  · next hne =>
    cases h
    have hsum : (cs.takeWhile isDigit).length + (cs.dropWhile isDigit).length = cs.length := by
      rw [← List.length_append, List.takeWhile_append_dropWhile]
    have hpos := List.length_pos_of_ne_nil hne
    omega

theorem length_of_scanWhole {cs ds rest : List Char} (h : scanWhole cs = .ok (ds, rest)) :
    rest.length < cs.length := by
  unfold scanWhole at h
  split at h
  · split at h
    · cases h
    · cases h
      exact Nat.lt_succ_self _
  · exact length_of_scanDigits h

theorem length_of_scanFraction {cs ds rest : List Char} (h : scanFraction cs = .ok (ds, rest)) :
    rest.length ≤ cs.length := by
  unfold scanFraction at h
  split at h
  · next r =>
    obtain ⟨⟨ds, rest⟩, hdigits, h⟩ := Except.of_bind_ok h
    cases h
    exact Nat.le_succ_of_le (Nat.le_of_lt (length_of_scanDigits hdigits))
  · cases h
    exact Nat.le_refl _

theorem length_scanSign_le (cs : List Char) : (scanSign cs).2.length ≤ cs.length := by
  unfold scanSign
  split
  · exact Nat.le_succ _
  · exact Nat.le_succ _
  · exact Nat.le_refl _

theorem length_of_scanExponent {cs ds rest : List Char} (h : scanExponent cs = .ok (ds, rest)) :
    rest.length ≤ cs.length := by
  unfold scanExponent at h
  split at h
  · next c r =>
    split at h
    · obtain ⟨⟨ds, rest⟩, hdigits, h⟩ := Except.of_bind_ok h
      cases h
      have hlt := Nat.lt_of_lt_of_le (length_of_scanDigits hdigits) (length_scanSign_le r)
      exact Nat.le_succ_of_le (Nat.le_of_lt hlt)
    · cases h
      exact Nat.le_refl _
  · cases h
    exact Nat.le_refl _

theorem length_of_scanNumber {cs rest : List Char} {l : Lexeme}
    (h : scanNumber cs = .ok (l, rest)) : rest.length < cs.length := by
  unfold scanNumber at h
  split at h
  next minus signless hsign =>
  have hminus : signless.length ≤ cs.length := by
    split at hsign <;> cases hsign
    · exact Nat.le_succ _
    · exact Nat.le_refl _
  obtain ⟨⟨whole, r⟩, hwhole, h⟩ := Except.of_bind_ok h
  obtain ⟨⟨fraction, r'⟩, hfraction, h⟩ := Except.of_bind_ok h
  obtain ⟨⟨exponent, r''⟩, hexponent, h⟩ := Except.of_bind_ok h
  have hlt := length_of_scanWhole hwhole
  have hle := length_of_scanFraction hfraction
  have hle' := length_of_scanExponent hexponent
  have hrest : rest = r'' := by
    dsimp only at h
    split at h
    · cases h
    · exact (Prod.mk.inj (Except.ok.inj h)).2.symm
  rw [hrest]
  have hfirst := Nat.lt_of_lt_of_le hlt hminus
  exact Nat.lt_of_le_of_lt (Nat.le_trans hle' hle) hfirst

theorem length_of_scanQuoted {fuel : Nat} {done cs rest : List Char} {l : Lexeme}
    (h : scanQuoted fuel done cs = .ok (l, rest)) : rest.length ≤ cs.length := by
  induction fuel generalizing done cs with
  | zero => cases h
  | succ fuel ih =>
    unfold scanQuoted at h
    split at h
    · cases h
    · cases h
      exact Nat.le_succ _
    · split at h
      · next c n _ =>
        have hle := ih h
        rw [List.length_drop] at hle
        omega
      · cases h
    · split at h
      · cases h
      · exact Nat.le_succ_of_le (ih h)

theorem length_of_scanBlock {done cs rest : List Char} {l : Lexeme}
    (h : scanBlock done cs = .ok (l, rest)) : rest.length ≤ cs.length := by
  induction done, cs using scanBlock.induct with
  | case1 => cases h
  | case2 done r =>
    rw [scanBlock] at h
    cases h
    simp only [List.length_cons]
    omega
  | case3 done r ih =>
    rw [scanBlock] at h
    have hle := ih h
    simp only [List.length_cons]
    omega
  | case4 done c r h1 h2 ih =>
    rw [scanBlock] at h
    · exact Nat.le_succ_of_le (ih h)
    · exact h1
    · exact h2

theorem length_of_scanOne {cs rest : List Char} {l : Lexeme} (h : scanOne cs = .ok (l, rest))
    (hl : l ≠ .finish) : rest.length < cs.length := by
  unfold scanOne at h
  split at h
  · cases h
    exact absurd rfl hl
  · have hle := length_of_scanBlock h
    simp only [List.length_cons]
    omega
  · exact Nat.lt_succ_of_le (length_of_scanQuoted h)
  · cases h
    simp only [List.length_cons]
    omega
  · next c r _ _ _ =>
    split at h
    · cases h
      exact Nat.lt_succ_self _
    · split at h
      · exact length_of_scanNumber h
      · split at h
        · next hstart =>
          cases h
          rw [List.dropWhile_cons_of_pos (isNameChar_of_isNameStart hstart)]
          exact Nat.lt_succ_of_le (List.dropWhile_suffix _).length_le
        · split at h <;> cases h

end Shrinking

section Tokens

/-- A text without the separators at its front. -/
def skip (cs : List Char) : List Char := skipSeparators (cs.length + 1) cs

/-- The tokens of what is left of a text of some size. -/
def tokens (size : Nat) (cs : List Char) : List Token := scanFrom size (cs.length + 1) cs

theorem scan_eq (s : String) : scan s = tokens s.toList.length s.toList := rfl

theorem length_skip_le (cs : List Char) : (skip cs).length ≤ cs.length :=
  length_skipSeparators_le _ _

theorem scanFrom_fuel {size fuel fuel' : Nat} {cs : List Char} (h : cs.length < fuel)
    (h' : cs.length < fuel') : scanFrom size fuel cs = scanFrom size fuel' cs := by
  induction fuel generalizing fuel' cs with
  | zero => cases h
  | succ fuel ih =>
    obtain ⟨fuel', rfl⟩ := Nat.exists_eq_succ_of_ne_zero (Nat.ne_zero_of_lt h')
    rw [scanFrom, scanFrom]
    split
    · rfl
    · rfl
    · next l rest hl hscan =>
      have hlt : rest.length < (skip cs).length := length_of_scanOne hscan hl
      have hle := length_skip_le cs
      have hrest : scanFrom size fuel rest = scanFrom size fuel' rest := ih (by omega) (by omega)
      rw [hrest]

theorem tokens_eq (size : Nat) (cs : List Char) : tokens size cs =
    match scanOne (skip cs) with
    | .error f => [⟨size - f.left, .bad f.error⟩]
    | .ok (.finish, _) => [⟨size - (skip cs).length, .finish⟩]
    | .ok (l, rest) => ⟨size - (skip cs).length, l⟩ :: tokens size rest := by
  rw [tokens, scanFrom]
  change (match scanOne (skip cs) with | .error f => _ | .ok (.finish, _) => _ | .ok (l, rest) => _)
    = (match scanOne (skip cs) with | .error f => _ | .ok (.finish, _) => _ | .ok (l, rest) => _)
  split
  · rfl
  · rfl
  · next l rest hl hscan =>
    have hlt := length_of_scanOne hscan hl
    have hle := length_skip_le cs
    have hrest : scanFrom size cs.length rest = tokens size rest :=
      scanFrom_fuel (by omega) (Nat.lt_succ_self _)
    rw [hrest]
    rfl

theorem skip_separator {c : Char} (hc : isSeparator c = true) (cs : List Char) :
    skip (c :: cs) = skip cs := by
  have hcomment : c ≠ '#' := by
    rintro rfl
    cases hc
  rw [skip, List.length_cons, skipSeparators]
  · rw [hc, if_pos rfl]
    rfl
  · exact hcomment

theorem tokens_separator (size : Nat) {c : Char} (hc : isSeparator c = true) (cs : List Char) :
    tokens size (c :: cs) = tokens size cs := by
  rw [tokens_eq, tokens_eq, skip_separator hc]

theorem separators_of_all {cs : List Char} (h : cs.all isSeparator = true) :
    ∀ c ∈ cs, isSeparator c = true := List.all_eq_true.mp h

theorem blank_separates : ∀ c ∈ [' '], isSeparator c = true := separators_of_all rfl

theorem newline_separates : ∀ c ∈ ['\n'], isSeparator c = true := separators_of_all rfl

theorem newlines_separate : ∀ c ∈ ['\n', '\n'], isSeparator c = true := separators_of_all rfl

theorem tokens_separators (size : Nat) {s : List Char} (hss : ∀ c ∈ s, isSeparator c = true)
    (cs : List Char) : tokens size (s ++ cs) = tokens size cs := by
  induction s with
  | nil => rfl
  | cons c s ih =>
    rw [List.cons_append, tokens_separator size (hss c List.mem_cons_self),
      ih fun d hd => hss d (List.mem_cons_of_mem c hd)]

theorem skip_of_other {c : Char} (hc : isSeparator c = false) (hcomment : c ≠ '#')
    (cs : List Char) : skip (c :: cs) = c :: cs := by
  rw [skip, List.length_cons, skipSeparators]
  · rw [hc, if_neg Bool.false_ne_true]
  · exact hcomment

/-- The token at the front of a text. -/
def front (cs : List Char) : Lexeme :=
  match scanOne (skip cs) with
  | .error f => .bad f.error
  | .ok (l, _) => l

/-- A text starts with a token, behind which the rest of it follows. -/
def Starts (cs : List Char) (l : Lexeme) (rest : List Char) : Prop :=
  ∀ size, ∃ position, tokens size cs = ⟨position, l⟩ :: tokens size rest

theorem tokens_front (size : Nat) (cs : List Char) :
    ∃ position ts, tokens size cs = ⟨position, front cs⟩ :: ts := by
  rw [tokens_eq, front]
  cases scanOne (skip cs) with
  | error f => exact ⟨_, _, rfl⟩
  | ok r =>
    obtain ⟨l, rest⟩ := r
    cases l <;> exact ⟨_, _, rfl⟩

theorem Starts.front_eq {cs rest : List Char} {l : Lexeme} (h : Starts cs l rest) :
    front cs = l := by
  obtain ⟨p, hp⟩ := h 0
  obtain ⟨q, ts, hq⟩ := tokens_front 0 cs
  rw [hp] at hq
  exact (Token.mk.inj (List.cons.inj hq).1).2.symm

theorem starts_of_scanOne {cs rest : List Char} {l : Lexeme} (h : scanOne (skip cs) = .ok (l, rest))
    (hl : l ≠ .finish) : Starts cs l rest := by
  intro size
  rw [tokens_eq, h]
  cases l with
  | finish => exact absurd rfl hl
  | _ => exact ⟨_, rfl⟩

theorem front_separators {s : List Char} (hss : ∀ c ∈ s, isSeparator c = true) (cs : List Char) :
    front (s ++ cs) = front cs := by
  have hskip : skip (s ++ cs) = skip cs := by
    induction s with
    | nil => rfl
    | cons c s ih =>
      rw [List.cons_append, skip_separator (hss c List.mem_cons_self),
        ih fun d hd => hss d (List.mem_cons_of_mem c hd)]
  rw [front, front, hskip]

theorem Starts.separators {s cs rest : List Char} {l : Lexeme} (h : Starts cs l rest)
    (hss : ∀ c ∈ s, isSeparator c = true) : Starts (s ++ cs) l rest := by
  intro size
  rw [tokens_separators size hss]
  exact h size

end Tokens

section Pieces
variable {rest : List Char}

/-- A text that does not run on from a name, a number or a quoted text. -/
def Apart (cs : List Char) : Prop :=
  ∀ c ∈ cs.head?, isNameChar c = false ∧ c ≠ '.' ∧ c ≠ '"'

theorem apart_nil : Apart [] := fun _ h => by cases h

theorem apart_cons {c : Char} (h : isNameChar c = false ∧ c ≠ '.' ∧ c ≠ '"') (cs : List Char) :
    Apart (c :: cs) := by
  intro d hd
  obtain rfl := Option.mem_some.mp hd
  exact h

theorem of_punctuation {c : Char} {p : Punctuation} (h : Punctuation.ofChar? c = some p) :
    isSeparator c = false ∧ c ≠ '#' ∧ c ≠ '"' ∧ c ≠ '.' := by
  have hother : ∀ d, Punctuation.ofChar? d = none → c ≠ d := by
    rintro d hd rfl
    rw [hd] at h
    cases h
  refine ⟨?_, hother '#' (by decide), hother '"' (by decide), hother '.' (by decide)⟩
  simp only [isSeparator, Bool.or_eq_false_iff, beq_eq_false_iff_ne]
  exact ⟨⟨⟨⟨⟨hother _ (by decide), hother _ (by decide)⟩, hother _ (by decide)⟩,
    hother _ (by decide)⟩, hother _ (by decide)⟩, hother _ (by decide)⟩

theorem starts_punctuation {c : Char} {p : Punctuation} (h : Punctuation.ofChar? c = some p) :
    Starts (c :: rest) (.punctuation p) rest := by
  obtain ⟨hseparator, hcomment, hquote, hpoint⟩ := of_punctuation h
  refine starts_of_scanOne ?_ (by intro hl; cases hl)
  rw [skip_of_other hseparator hcomment, scanOne, h]
  · exact fun r heq => absurd heq hquote
  · exact fun heq => absurd heq hquote
  · exact fun r heq => absurd heq hpoint

/-- A text that is a name as a whole. -/
def isName (s : String) : Bool := s.toList.head?.any isNameStart && s.toList.all isNameChar

theorem takeWhile_append_of_all {p : Char → Bool} {cs : List Char} (h : cs.all p = true)
    (hrest : ∀ c ∈ rest.head?, p c = false) :
    (cs ++ rest).takeWhile p = cs ∧ (cs ++ rest).dropWhile p = rest := by
  have hnone : rest.takeWhile p = [] ∧ rest.dropWhile p = rest := by
    cases rest with
    | nil => exact ⟨rfl, rfl⟩
    | cons c r =>
      have hc := hrest c rfl
      exact ⟨List.takeWhile_cons_of_neg (by simp [hc]), List.dropWhile_cons_of_neg (by simp [hc])⟩
  have hall := List.all_eq_true.mp h
  rw [List.takeWhile_append_of_pos hall, List.dropWhile_append_of_pos hall, hnone.1, hnone.2,
    List.append_nil]
  exact ⟨rfl, rfl⟩

theorem isNameChar_ascii {c : Char} (h : isNameChar c = true) : c.toNat < 128 := by
  simp only [isNameChar, isNameStart, isDigit, Bool.or_eq_true, Bool.and_eq_true, decide_eq_true_eq,
    beq_iff_eq, Char.le_def, UInt32.le_iff_toNat_le] at h
  rcases h with ((h | h) | rfl) | h
  · exact Nat.lt_of_le_of_lt h.2 (by decide)
  · exact Nat.lt_of_le_of_lt h.2 (by decide)
  · decide
  · exact Nat.lt_of_le_of_lt h.2 (by decide)

theorem of_isNameChar {c : Char} (h : isNameChar c = true) :
    Punctuation.ofChar? c = none ∧ isSeparator c = false := by
  have hall : ∀ n < 128, isNameChar (Char.ofNat n) = true →
      Punctuation.ofChar? (Char.ofNat n) = none ∧ isSeparator (Char.ofNat n) = false := by
    decide +kernel
  have hc := hall c.toNat (isNameChar_ascii h)
  rw [Char.ofNat_toNat] at hc
  exact hc h

theorem of_isNameStart {c : Char} (h : isNameStart c = true) :
    isSeparator c = false ∧ c ≠ '#' ∧ c ≠ '"' ∧ c ≠ '.' ∧ Punctuation.ofChar? c = none
      ∧ isDigit c = false ∧ c ≠ '-' := by
  have hall : ∀ n < 128, isNameStart (Char.ofNat n) = true →
      isSeparator (Char.ofNat n) = false ∧ Char.ofNat n ≠ '#' ∧ Char.ofNat n ≠ '"'
        ∧ Char.ofNat n ≠ '.' ∧ Punctuation.ofChar? (Char.ofNat n) = none
        ∧ isDigit (Char.ofNat n) = false ∧ Char.ofNat n ≠ '-' := by decide +kernel
  have hc := hall c.toNat (isNameChar_ascii (isNameChar_of_isNameStart h))
  rw [Char.ofNat_toNat] at hc
  exact hc h

theorem apart_punctuation {c : Char} {p : Punctuation} (h : Punctuation.ofChar? c = some p)
    (cs : List Char) : Apart (c :: cs) := by
  refine apart_cons ⟨?_, (of_punctuation h).2.2.2, (of_punctuation h).2.2.1⟩ cs
  by_contra hname
  rw [(of_isNameChar ((Bool.not_eq_false _).mp hname)).1] at h
  cases h

theorem apart_separator {c : Char} (h : isSeparator c = true) (cs : List Char) :
    Apart (c :: cs) := by
  refine apart_cons ⟨?_, ?_, ?_⟩ cs
  · by_contra hname
    rw [(of_isNameChar ((Bool.not_eq_false _).mp hname)).2] at h
    cases h
  · rintro rfl
    cases h
  · rintro rfl
    cases h

theorem starts_name {n : String} (hn : isName n = true) (hrest : Apart rest) :
    Starts (n.toList ++ rest) (.name n) rest := by
  obtain ⟨hhead, hall⟩ := Bool.and_eq_true_iff.mp hn
  obtain ⟨htake, hdrop⟩ := takeWhile_append_of_all hall fun c hc => (hrest c hc).1
  cases hcs : n.toList with
  | nil =>
    rw [hcs] at hhead
    cases hhead
  | cons c cs =>
    rw [hcs, List.cons_append] at htake hdrop
    rw [hcs] at hhead
    have hstart : isNameStart c = true := hhead
    obtain ⟨hseparator, hcomment, hquote, hpoint, hpunctuation, hdigit, hminus⟩ :=
      of_isNameStart hstart
    refine starts_of_scanOne ?_ (by intro hl; cases hl)
    rw [List.cons_append, skip_of_other hseparator hcomment, scanOne, hpunctuation]
    · simp only [hdigit, beq_eq_false_iff_ne.mpr hminus, hstart, htake, hdrop, Bool.or_self,
        Bool.false_eq_true, if_false, if_true]
      rw [← hcs, String.ofList_toList]
    · exact fun r heq => absurd heq hquote
    · exact fun heq => absurd heq hquote
    · exact fun r heq => absurd heq hpoint

end Pieces
end Subgraph.Token
