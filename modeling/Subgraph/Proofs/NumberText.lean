import Subgraph.Proofs.Scanning

/-!
# Numbers read back

A number is a sign, digits without a leading zero, a fraction and an exponent, of which only the digits
have to be there. It is one token, which tells a whole number from one with a fraction or an exponent.
-/

namespace Subgraph.Token
open Text
variable {rest : List Char}

/-- One digit at least. -/
def Digits (ds : List Char) : Prop := ds ≠ [] ∧ ds.all isDigit = true

/-- Digits without a leading zero, or zero. -/
def WholeDigits (ds : List Char) : Prop := ds = ['0'] ∨ Digits ds ∧ ds.head? ≠ some '0'

def IsFraction (cs : List Char) : Prop := cs = [] ∨ ∃ ds, cs = '.' :: ds ∧ Digits ds

def IsExponent (cs : List Char) : Prop :=
  cs = [] ∨ ∃ e sign ds, cs = e :: (sign ++ ds) ∧ (e = 'e' ∨ e = 'E')
    ∧ (sign = [] ∨ sign = ['+'] ∨ sign = ['-']) ∧ Digits ds

/-- The parts of a number. -/
structure NumberParts (cs minus whole fraction exponent : List Char) : Prop where
  text : cs = minus ++ (whole ++ (fraction ++ exponent))
  minus : minus = [] ∨ minus = ['-']
  whole : WholeDigits whole
  fraction : IsFraction fraction
  exponent : IsExponent exponent

/-- A whole number. -/
def IsIntText (s : String) : Prop := ∃ minus whole, NumberParts s.toList minus whole [] []

/-- A number with a fraction or an exponent. -/
def IsFloatText (s : String) : Prop := ∃ minus whole fraction exponent,
  NumberParts s.toList minus whole fraction exponent ∧ ¬ (fraction = [] ∧ exponent = [])

section Parts

theorem WholeDigits.digits {ds : List Char} (h : WholeDigits ds) : Digits ds := by
  rcases h with rfl | h
  · exact ⟨by simp, by decide⟩
  · exact h.1

theorem scanDigits_append {ds : List Char} (h : Digits ds)
    (hrest : ∀ c ∈ rest.head?, isDigit c = false) : scanDigits (ds ++ rest) = .ok (ds, rest) := by
  obtain ⟨htake, hdrop⟩ := takeWhile_append_of_all h.2 hrest
  rw [scanDigits, htake, hdrop]
  cases ds with
  | nil => exact absurd rfl h.1
  | cons d ds => rfl

theorem scanWhole_append {ds : List Char} (h : WholeDigits ds)
    (hrest : ∀ c ∈ rest.head?, isDigit c = false) : scanWhole (ds ++ rest) = .ok (ds, rest) := by
  rcases h with rfl | ⟨hdigits, hzero⟩
  · have hnone : rest.head?.any isDigit = false := by
      cases rest with
      | nil => rfl
      | cons c r => exact hrest c rfl
    show (if rest.head?.any isDigit then _ else _) = _
    rw [hnone]
    rfl
  · rw [scanWhole, scanDigits_append hdigits hrest]
    intro r hr
    cases ds with
    | nil => exact hdigits.1 rfl
    | cons d ds =>
      obtain ⟨rfl, -⟩ := List.cons.inj hr
      exact hzero rfl

theorem scanFraction_append {fraction : List Char} (h : IsFraction fraction)
    (hrest : ∀ c ∈ rest.head?, isDigit c = false ∧ c ≠ '.') :
    scanFraction (fraction ++ rest) = .ok (fraction, rest) := by
  rcases h with rfl | ⟨ds, rfl, hdigits⟩
  · rw [List.nil_append, scanFraction]
    intro r hr
    exact (hrest '.' (by rw [hr]; rfl)).2 rfl
  · rw [List.cons_append, scanFraction, scanDigits_append hdigits fun c hc => (hrest c hc).1]
    rfl

theorem scanSign_append {sign ds : List Char} (hsign : sign = [] ∨ sign = ['+'] ∨ sign = ['-'])
    (h : Digits ds) : scanSign (sign ++ (ds ++ rest)) = (sign, ds ++ rest) := by
  rcases hsign with rfl | rfl | rfl
  · cases ds with
    | nil => exact absurd rfl h.1
    | cons d ds =>
      have hd : isDigit d = true := (List.all_eq_true.mp h.2) d List.mem_cons_self
      rw [List.nil_append, scanSign]
      · intro r hr
        obtain ⟨rfl, -⟩ := List.cons.inj hr
        cases hd
      · intro r hr
        obtain ⟨rfl, -⟩ := List.cons.inj hr
        cases hd
  · rfl
  · rfl

theorem scanExponent_append {exponent : List Char} (h : IsExponent exponent)
    (hrest : ∀ c ∈ rest.head?, isDigit c = false ∧ c ≠ 'e' ∧ c ≠ 'E') :
    scanExponent (exponent ++ rest) = .ok (exponent, rest) := by
  rcases h with rfl | ⟨e, sign, ds, rfl, he, hsign, hdigits⟩
  · cases rest with
    | nil => rfl
    | cons c r =>
      obtain ⟨-, hlower, hupper⟩ := hrest c rfl
      rw [List.nil_append, scanExponent, if_neg (not_or.mpr ⟨hlower, hupper⟩)]
  · rw [List.cons_append, scanExponent, if_pos he, List.append_assoc, scanSign_append hsign hdigits]
    show (scanDigits (ds ++ rest) >>= _) = _
    rw [scanDigits_append hdigits fun c hc => (hrest c hc).1]
    rfl

end Parts

section Numbers

theorem head?_tail {fraction exponent : List Char} (hfraction : IsFraction fraction)
    (hexponent : IsExponent exponent) (hrest : Apart rest) :
    (∀ c ∈ (exponent ++ rest).head?, isDigit c = false ∧ c ≠ '.')
      ∧ ∀ c ∈ (fraction ++ (exponent ++ rest)).head?, isDigit c = false := by
  have hrestHead : ∀ c ∈ rest.head?, isDigit c = false ∧ c ≠ '.' := by
    intro c hc
    obtain ⟨hname, hpoint, -⟩ := hrest c hc
    exact ⟨(Bool.or_eq_false_iff.mp hname).2, hpoint⟩
  have hexponentHead : ∀ c ∈ (exponent ++ rest).head?, isDigit c = false ∧ c ≠ '.' := by
    rcases hexponent with rfl | ⟨e, sign, ds, rfl, rfl | rfl, -, -⟩
    · exact hrestHead
    · intro c hc
      obtain rfl := Option.mem_some.mp hc
      decide
    · intro c hc
      obtain rfl := Option.mem_some.mp hc
      decide
  refine ⟨hexponentHead, ?_⟩
  rcases hfraction with rfl | ⟨ds, rfl, -⟩
  · exact fun c hc => (hexponentHead c hc).1
  · intro c hc
    obtain rfl := Option.mem_some.mp hc
    decide

theorem scanNumber_append {s : String} {minus whole fraction exponent : List Char}
    (h : NumberParts s.toList minus whole fraction exponent) (hrest : Apart rest) :
    scanNumber (s.toList ++ rest)
      = .ok (if fraction.isEmpty && exponent.isEmpty then .int s else .float s, rest) := by
  obtain ⟨hexponentHead, hfractionHead⟩ := head?_tail h.fraction h.exponent hrest
  have hexponentRest : ∀ c ∈ rest.head?, isDigit c = false ∧ c ≠ 'e' ∧ c ≠ 'E' := by
    intro c hc
    obtain ⟨hname, -, -⟩ := hrest c hc
    refine ⟨(Bool.or_eq_false_iff.mp hname).2, ?_, ?_⟩ <;> (rintro rfl; cases hname)
  have hbehind : (rest.head?.any fun c => c == '.' || isNameStart c) = false := by
    cases rest with
    | nil => rfl
    | cons c r =>
      obtain ⟨hname, hpoint, -⟩ := hrest c rfl
      show (c == '.' || isNameStart c) = false
      rw [beq_eq_false_iff_ne.mpr hpoint, (Bool.or_eq_false_iff.mp hname).1]
      rfl
  have hs : String.ofList (minus ++ whole ++ fraction ++ exponent) = s := by
    rw [List.append_assoc, List.append_assoc, ← h.text, String.ofList_toList]
  -- Behind the minus sign the parts are taken one after the other.
  have htail : (do
      let w ← scanWhole (whole ++ (fraction ++ (exponent ++ rest)))
      let f ← scanFraction w.2
      let e ← scanExponent f.2
      if e.2.head?.any fun c => c == '.' || isNameStart c then
        .error ⟨.digitExpected e.2.head?, e.2.length⟩
      else
        let s := String.ofList (minus ++ w.1 ++ f.1 ++ e.1)
        return (if f.1.isEmpty && e.1.isEmpty then .int s else .float s, e.2) : Scanned)
      = .ok (if fraction.isEmpty && exponent.isEmpty then .int s else .float s, rest) := by
    rw [scanWhole_append h.whole hfractionHead]
    show (scanFraction (fraction ++ (exponent ++ rest)) >>= _) = _
    rw [scanFraction_append h.fraction hexponentHead]
    show (scanExponent (exponent ++ rest) >>= _) = _
    rw [scanExponent_append h.exponent hexponentRest]
    show (if (rest.head?.any fun c => c == '.' || isNameStart c) then _ else _) = _
    rw [hbehind, if_neg Bool.false_ne_true, hs]
    rfl
  rw [h.text, List.append_assoc, List.append_assoc, List.append_assoc, ← htail]
  unfold scanNumber
  rcases h.minus with rfl | rfl
  -- Without a minus sign the first character is a digit.
  · obtain ⟨d, ds, hds⟩ := List.exists_cons_of_ne_nil h.whole.digits.1
    have hd : isDigit d = true := (List.all_eq_true.mp h.whole.digits.2) d (by rw [hds]; simp)
    rw [hds, List.nil_append, List.cons_append]
    split
    · next r hr =>
      split at hr
      · next hr' =>
        obtain ⟨rfl, -⟩ := List.cons.inj hr'
        cases hd
      · cases hr
        rfl
  · rfl

theorem of_numberStart {c : Char} (h : isDigit c = true ∨ c = '-') :
    isSeparator c = false ∧ c ≠ '#' ∧ c ≠ '"' ∧ c ≠ '.' ∧ Punctuation.ofChar? c = none
      ∧ (isDigit c || c == '-') = true := by
  have hall : ∀ n < 128, isDigit (Char.ofNat n) = true →
      isSeparator (Char.ofNat n) = false ∧ Char.ofNat n ≠ '#' ∧ Char.ofNat n ≠ '"'
        ∧ Char.ofNat n ≠ '.' ∧ Punctuation.ofChar? (Char.ofNat n) = none := by decide +kernel
  rcases h with hc | rfl
  · have hd := hall c.toNat (isNameChar_ascii (by simp [isNameChar, hc]))
    rw [Char.ofNat_toNat] at hd
    obtain ⟨h1, h2, h3, h4, h5⟩ := hd hc
    exact ⟨h1, h2, h3, h4, h5, by rw [hc]; rfl⟩
  · decide

theorem NumberParts.head {cs minus whole fraction exponent : List Char}
    (h : NumberParts cs minus whole fraction exponent) :
    ∃ c r, cs = c :: r ∧ (isDigit c = true ∨ c = '-') := by
  rw [h.text]
  rcases h.minus with rfl | rfl
  · obtain ⟨d, ds, hds⟩ := List.exists_cons_of_ne_nil h.whole.digits.1
    have hd : isDigit d = true := (List.all_eq_true.mp h.whole.digits.2) d (by rw [hds]; simp)
    exact ⟨d, _, by rw [hds]; rfl, .inl hd⟩
  · exact ⟨'-', _, rfl, .inr rfl⟩

theorem starts_number {s : String} {minus whole fraction exponent : List Char}
    (h : NumberParts s.toList minus whole fraction exponent) (hrest : Apart rest) :
    Starts (s.toList ++ rest)
      (if fraction.isEmpty && exponent.isEmpty then .int s else .float s) rest := by
  have hscan := scanNumber_append h hrest
  obtain ⟨c, cs, hcs, hc⟩ := h.head
  obtain ⟨hseparator, hcomment, hquote, hpoint, hpunctuation, hnumber⟩ := of_numberStart hc
  refine starts_of_scanOne ?_ (by split <;> (intro hl; cases hl))
  rw [← hscan, hcs, List.cons_append, skip_of_other hseparator hcomment, scanOne, hpunctuation]
  · simp only [hnumber, if_true]
  · exact fun r heq => absurd heq hquote
  · exact fun heq => absurd heq hquote
  · exact fun r heq => absurd heq hpoint

theorem starts_int {s : String} (h : IsIntText s) (hrest : Apart rest) :
    Starts (s.toList ++ rest) (.int s) rest := by
  obtain ⟨minus, whole, hparts⟩ := h
  exact starts_number hparts hrest

theorem starts_float {s : String} (h : IsFloatText s) (hrest : Apart rest) :
    Starts (s.toList ++ rest) (.float s) rest := by
  obtain ⟨minus, whole, fraction, exponent, hparts, hne⟩ := h
  have hstarts := starts_number hparts hrest
  rwa [if_neg (by simpa using hne)] at hstarts

end Numbers
end Subgraph.Token
