import Subgraph.Proofs.Lines
import Subgraph.Proofs.NumberText
import Subgraph.Proofs.ShortestDigits
import Subgraph.Schema.Coercion

/-!
# Floats read back

What is written for a number is digits, a fraction and an exponent, where the fraction and the exponent
may be left out. It is a token, and its value is the number again.
-/

namespace Subgraph

section Digits
open Token

theorem isDigit_eq (c : Char) : Text.isDigit c = c.isDigit := by
  rw [Text.isDigit, Char.isDigit]
  simp only [Char.le_def, ge_iff_le]

theorem all_toDigits (n : Nat) : (Nat.toDigits 10 n).all Text.isDigit = true := by
  rw [List.all_eq_true]
  intro c hc
  rw [isDigit_eq]
  exact Nat.isDigit_of_mem_toDigits (by decide) (by decide) hc

theorem digits_toDigits (n : Nat) : Digits (Nat.toDigits 10 n) := ⟨Nat.toDigits_ne_nil, all_toDigits n⟩

theorem head_toDigits {n : Nat} (hn : n ≠ 0) : (Nat.toDigits 10 n).head? ≠ some '0' := by
  induction n using Nat.strongRecOn with
  | ind n ih =>
    rw [Nat.toDigits_eq_if (by decide)]
    split
    · next hlt =>
      have hall : ∀ k < 10, k ≠ 0 → k.digitChar ≠ '0' := by decide
      rw [List.head?_cons]
      exact fun h => hall n hlt hn (Option.some.inj h)
    · next hge =>
      have hdiv : n / 10 ≠ 0 := by omega
      rw [List.head?_append_of_ne_nil _ Nat.toDigits_ne_nil]
      exact ih (n / 10) (by omega) hdiv

theorem wholeDigits_toDigits (n : Nat) : WholeDigits (Nat.toDigits 10 n) := by
  by_cases hn : n = 0
  · subst hn
    exact .inl rfl
  · exact .inr ⟨digits_toDigits n, head_toDigits hn⟩

theorem ofDigitChars_zeros (k : Nat) (ds : List Char) :
    Nat.ofDigitChars 10 (List.replicate k '0' ++ ds) 0 = Nat.ofDigitChars 10 ds 0 := by
  rw [Nat.ofDigitChars_append, Nat.ofDigitChars_replicate_zero, Nat.mul_zero]

end Digits

namespace Double
open Token

def exponentText : Option Int → List Char
  | none => []
  | some e => 'e' :: (if e < 0 then '-' else '+') :: (padded 2 e.natAbs).toList

/-- Digits, a fraction, and an exponent. -/
def numberText (whole fraction : List Char) (exponent : Option Int) : List Char :=
  whole ++ ((if fraction = [] then [] else '.' :: fraction) ++ exponentText exponent)

def signText (negative : Bool) : List Char := if negative then ['-'] else []

theorem padded_digits (width n : Nat) :
    Digits (padded width n).toList ∧ Nat.ofDigitChars 10 (padded width n).toList 0 = n := by
  have htext : (padded width n).toList
      = List.replicate (width - (Nat.toDigits 10 n).length) '0' ++ Nat.toDigits 10 n := by
    rw [padded, Nat.toString_eq_ofList_toDigits]
    simp
  rw [htext, ofDigitChars_zeros, Nat.ofDigitChars_ten_toDigits]
  refine ⟨⟨?_, ?_⟩, rfl⟩
  · exact List.append_ne_nil_of_right_ne_nil _ Nat.toDigits_ne_nil
  · rw [List.all_append, all_toDigits, Bool.and_true, List.all_replicate]
    simp [Text.isDigit]

theorem not_digit_of_mem {ds : List Char} (hds : ds.all Text.isDigit = true) {c : Char}
    (hc : Text.isDigit c = false) : c ∉ ds := fun hmem => by
  rw [List.all_eq_true.mp hds c hmem] at hc
  cases hc

theorem intOfText_digits {ds : List Char} (hds : Digits ds) (negative : Bool) {s : String}
    (hs : s.toList = signText negative ++ ds) :
    intOfText s = if negative then -(Nat.ofDigitChars 10 ds 0 : Int) else Nat.ofDigitChars 10 ds 0 := by
  rw [intOfText, hs]
  cases negative with
  | true => rfl
  | false =>
    split
    · next r heq =>
      have hmem : '-' ∈ ds := by
        have hcons : '-' ∈ signText false ++ ds := heq ▸ List.mem_cons_self
        exact hcons
      exact absurd hmem (not_digit_of_mem hds.2 rfl)
    · rfl

def isExponentMark (c : Char) : Bool := c == 'e' || c == 'E'

theorem intOfText_exponentText (exponent : Option Int) : intOfText (String.ofList
    (if ((exponentText exponent).drop 1).head? == some '+' then ((exponentText exponent).drop 1).drop 1
      else (exponentText exponent).drop 1)) = exponent.getD 0 := by
  cases exponent with
  | none => decide
  | some e =>
    obtain ⟨hdigits, hvalue⟩ := padded_digits 2 e.natAbs
    by_cases he : e < 0
    · have htext : exponentText (some e) = 'e' :: '-' :: (padded 2 e.natAbs).toList := by
        rw [exponentText, if_pos he]
      rw [htext, List.drop_one, List.tail_cons, List.head?_cons, if_neg (by decide),
        intOfText_digits hdigits true (by rw [String.toList_ofList]; rfl), hvalue, if_pos rfl,
        Option.getD_some]
      omega
    · have htext : exponentText (some e) = 'e' :: '+' :: (padded 2 e.natAbs).toList := by
        rw [exponentText, if_neg he]
      rw [htext, List.drop_one, List.tail_cons, List.head?_cons, if_pos (by decide), List.drop_one,
        List.tail_cons, intOfText_digits hdigits false
          (by rw [String.toList_ofList, signText, if_neg Bool.false_ne_true, List.nil_append]), hvalue,
        if_neg Bool.false_ne_true, Option.getD_some]
      omega

/-- The digits behind the point, with the point in front of them if there are any. -/
def fractionText (fraction : List Char) : List Char := if fraction = [] then [] else '.' :: fraction

section Splitting
variable {whole : List Char} (hwhole : whole.all Text.isDigit = true)
include hwhole

theorem split_exponent {fraction : List Char} (hfraction : fraction.all Text.isDigit = true)
    (exponent : Option Int) :
    (numberText whole fraction exponent).takeWhile (!isExponentMark ·) = whole ++ fractionText fraction
      ∧ (numberText whole fraction exponent).dropWhile (!isExponentMark ·) = exponentText exponent := by
  have hdigit : ∀ {ds : List Char}, ds.all Text.isDigit = true → ∀ d ∈ ds, (!isExponentMark d) = true := by
    intro ds hds d hd
    rw [Bool.not_eq_true', isExponentMark, Bool.or_eq_false_iff, beq_eq_false_iff_ne, beq_eq_false_iff_ne]
    constructor
    · rintro rfl
      exact not_digit_of_mem hds rfl hd
    · rintro rfl
      exact not_digit_of_mem hds rfl hd
  have hbody : (whole ++ fractionText fraction).all (!isExponentMark ·) = true := by
    rw [List.all_eq_true]
    intro d hd
    rcases List.mem_append.mp hd with hd | hd
    · exact hdigit hwhole d hd
    · unfold fractionText at hd
      split at hd
      · cases hd
      · rcases List.mem_cons.mp hd with rfl | hd
        · rfl
        · exact hdigit hfraction d hd
  have hmark : ∀ c ∈ (exponentText exponent).head?, (!isExponentMark c) = false := by
    cases exponent with
    | none => simp [exponentText]
    | some e => simp [exponentText, isExponentMark]
  have htext : numberText whole fraction exponent
      = (whole ++ fractionText fraction) ++ exponentText exponent := by
    rw [numberText, fractionText, List.append_assoc]
  rw [htext]
  exact takeWhile_append_of_all hbody hmark

theorem split_point (fraction : List Char) :
    (whole ++ fractionText fraction).takeWhile (· != '.') = whole
      ∧ ((whole ++ fractionText fraction).dropWhile (· != '.')).drop 1 = fraction := by
  have hpoint : ∀ c ∈ (fractionText fraction).head?, (c != '.') = false := by
    unfold fractionText
    split <;> simp
  have hnoPoint : whole.all (· != '.') = true := by
    rw [List.all_eq_true]
    intro d hd
    rw [bne_iff_ne]
    rintro rfl
    exact not_digit_of_mem hwhole rfl hd
  obtain ⟨htake, hdrop⟩ := takeWhile_append_of_all hnoPoint hpoint
  refine ⟨htake, ?_⟩
  rw [hdrop, fractionText]
  split
  · next h => rw [h]; rfl
  · rfl

end Splitting

theorem doubleOfText_numberText {whole fraction : List Char} (hwhole : Digits whole)
    (hfraction : fraction.all Text.isDigit = true) (exponent : Option Int) (negative : Bool) {s : String}
    (hs : s.toList = signText negative ++ numberText whole fraction exponent) :
    doubleOfText s = ofDecimal negative (Nat.ofDigitChars 10 (whole ++ fraction) 0)
      (exponent.getD 0 - fraction.length) := by
  obtain ⟨c, r, rfl⟩ := List.exists_cons_of_ne_nil hwhole.1
  have hc : c ≠ '-' := by
    rintro rfl
    exact absurd List.mem_cons_self (not_digit_of_mem hwhole.2 rfl)
  have hnegative : (s.toList.head? == some '-') = negative := by
    rw [hs]
    cases negative with
    | true => rfl
    | false => simpa [signText, numberText] using hc
  have hunsigned : (if negative then s.toList.drop 1 else s.toList) = numberText (c :: r) fraction exponent := by
    rw [hs]
    cases negative <;> rfl
  obtain ⟨hbody, hexponent⟩ := split_exponent hwhole.2 hfraction exponent
  obtain ⟨hinteger, hbehind⟩ := split_point hwhole.2 fraction
  simp only [isExponentMark] at hbody hexponent
  simp only [doubleOfText]
  rw [hnegative, hunsigned, hbody, hexponent, hinteger, hbehind, intOfText_exponentText]

theorem numberParts {whole fraction : List Char} (hwhole : WholeDigits whole)
    (hfraction : fraction.all Text.isDigit = true) (exponent : Option Int) (negative : Bool) {s : String}
    (hs : s.toList = signText negative ++ numberText whole fraction exponent) :
    NumberParts s.toList (signText negative) whole (if fraction = [] then [] else '.' :: fraction)
      (exponentText exponent) where
  text := by rw [hs, numberText]
  minus := by cases negative <;> simp [signText]
  whole := hwhole
  fraction := by
    split
    · exact .inl rfl
    · next h => exact .inr ⟨fraction, rfl, h, hfraction⟩
  exponent := by
    cases exponent with
    | none => exact .inl rfl
    | some e =>
      refine .inr ⟨'e', if e < 0 then ['-'] else ['+'], _, ?_, .inl rfl, ?_, (padded_digits 2 e.natAbs).1⟩
      · rw [exponentText]
        split <;> rfl
      · split
        · exact .inr (.inr rfl)
        · exact .inr (.inl rfl)

theorem isIntText_numberText {whole : List Char} (hwhole : WholeDigits whole) (negative : Bool) {s : String}
    (hs : s.toList = signText negative ++ whole) : IsIntText s :=
  ⟨signText negative, whole, numberParts hwhole (rfl : [].all Text.isDigit = true) none negative
    (by rw [hs, numberText, if_pos rfl, exponentText, List.append_nil, List.append_nil])⟩

theorem isFloatText_numberText {whole fraction : List Char} (hwhole : WholeDigits whole)
    (hfraction : fraction.all Text.isDigit = true) {exponent : Option Int}
    (h : ¬ (fraction = [] ∧ exponent = none)) (negative : Bool) {s : String}
    (hs : s.toList = signText negative ++ numberText whole fraction exponent) : IsFloatText s := by
  refine ⟨_, _, _, _, numberParts hwhole hfraction exponent negative hs, fun heq => h ⟨?_, ?_⟩⟩
  · by_contra hne
    rw [if_neg hne] at heq
    cases heq.1
  · cases exponent with
    | none => rfl
    | some e => cases heq.2

/-- The text of a decimal: what its parts are, and that they have its value. -/
structure Spells (d : Decimal) (cs whole fraction : List Char) (exponent : Option Int) : Prop where
  text : cs = numberText whole fraction exponent
  isWhole : WholeDigits whole
  short : whole.length ≤ 16
  isFraction : fraction.all Text.isDigit = true
  value : (Nat.ofDigitChars 10 (whole ++ fraction) 0 : ℚ) * 10 ^ (exponent.getD 0 - fraction.length : Int)
    = d.quantity

theorem wholeDigits_take {n k : Nat} (hn : n ≠ 0) (hk : k ≠ 0) : WholeDigits ((Nat.toDigits 10 n).take k) := by
  obtain ⟨c, r, hds⟩ := List.exists_cons_of_ne_nil (Nat.toDigits_ne_nil (n := n) (b := 10))
  obtain ⟨k, rfl⟩ := Nat.exists_eq_succ_of_ne_zero hk
  have hhead := head_toDigits hn
  have hall := all_toDigits n
  rw [hds] at hhead hall ⊢
  rw [List.take_succ_cons]
  rw [List.all_cons, Bool.and_eq_true] at hall
  refine .inr ⟨⟨List.cons_ne_nil _ _, ?_⟩, hhead⟩
  rw [List.all_cons, hall.1, Bool.true_and, List.all_eq_true]
  exact fun d hd => List.all_eq_true.mp hall.2 d (List.mem_of_mem_take hd)

variable {d : Decimal}

theorem all_drop (n k : Nat) : ((Nat.toDigits 10 n).drop k).all Text.isDigit = true :=
  List.all_eq_true.mpr fun c hc => List.all_eq_true.mp (all_toDigits n) c (List.mem_of_mem_drop hc)

theorem spells_exponent (hd : d.digits ≠ 0)
    (h : ((Nat.toDigits 10 d.digits).length : Int) + d.exponent < layout.leastPoint
      ∨ layout.greatestPoint < ((Nat.toDigits 10 d.digits).length : Int) + d.exponent) :
    Spells d (layout.text d).toList ((Nat.toDigits 10 d.digits).take 1) ((Nat.toDigits 10 d.digits).drop 1)
      (some (((Nat.toDigits 10 d.digits).length : Int) + d.exponent - 1)) where
  text := by
    have hwidth : layout.exponentWidth = 2 := rfl
    have hsign : ∀ b : Prop, ∀ [Decidable b], (if b then "-" else "+").toList = [if b then '-' else '+'] := by
      intro b _
      split <;> rfl
    simp only [Layout.text, if_pos h, numberText, exponentText, hwidth, String.toList_append,
      String.toList_ofList, hsign]
    cases (Nat.toDigits 10 d.digits).drop 1 <;> simp
  isWhole := wholeDigits_take hd one_ne_zero
  short := (List.length_take_le _ _).trans (by decide)
  isFraction := all_drop _ _
  value := by
    have hpos : 0 < (Nat.toDigits 10 d.digits).length := Nat.length_toDigits_pos
    have hexponent : ((Nat.toDigits 10 d.digits).length : Int) + d.exponent - 1
        - (((Nat.toDigits 10 d.digits).length - 1 : Nat) : Int) = d.exponent := by omega
    rw [List.take_append_drop, Nat.ofDigitChars_ten_toDigits, Option.getD_some, List.length_drop, hexponent,
      Decimal.quantity]

theorem spells_small
    (h : ¬ (((Nat.toDigits 10 d.digits).length : Int) + d.exponent < layout.leastPoint
      ∨ layout.greatestPoint < ((Nat.toDigits 10 d.digits).length : Int) + d.exponent))
    (hsmall : ((Nat.toDigits 10 d.digits).length : Int) + d.exponent ≤ 0) :
    Spells d (layout.text d).toList ['0']
      (List.replicate (-(((Nat.toDigits 10 d.digits).length : Int) + d.exponent)).toNat '0'
        ++ Nat.toDigits 10 d.digits) none where
  text := by
    have hne : List.replicate (-(((Nat.toDigits 10 d.digits).length : Int) + d.exponent)).toNat '0'
        ++ Nat.toDigits 10 d.digits ≠ [] := List.append_ne_nil_of_right_ne_nil _ Nat.toDigits_ne_nil
    simp only [Layout.text, if_neg h, if_pos hsmall, numberText, if_neg hne, exponentText]
    simp
  isWhole := .inl rfl
  short := by decide
  isFraction := by
    rw [List.all_append, all_toDigits, Bool.and_true, List.all_replicate]
    simp [Text.isDigit]
  value := by
    have hexponent : (0 : Int) - ((-(((Nat.toDigits 10 d.digits).length : Int) + d.exponent)).toNat
        + (Nat.toDigits 10 d.digits).length : Nat) = d.exponent := by omega
    have hzeros := ofDigitChars_zeros
      (1 + (-(((Nat.toDigits 10 d.digits).length : Int) + d.exponent)).toNat) (Nat.toDigits 10 d.digits)
    rw [List.replicate_add, List.append_assoc, Nat.ofDigitChars_ten_toDigits] at hzeros
    rw [Option.getD_none, List.length_append, List.length_replicate, hexponent, Decimal.quantity]
    exact congrArg (fun n : Nat => (n : ℚ) * 10 ^ d.exponent) hzeros

theorem spells_whole (hd : d.digits ≠ 0)
    (h : ¬ (((Nat.toDigits 10 d.digits).length : Int) + d.exponent < layout.leastPoint
      ∨ layout.greatestPoint < ((Nat.toDigits 10 d.digits).length : Int) + d.exponent))
    (hsmall : ¬ ((Nat.toDigits 10 d.digits).length : Int) + d.exponent ≤ 0)
    (hwhole : (Nat.toDigits 10 d.digits).length ≤ (((Nat.toDigits 10 d.digits).length : Int) + d.exponent).toNat) :
    Spells d (layout.text d).toList
      (Nat.toDigits 10 d.digits ++ List.replicate
        ((((Nat.toDigits 10 d.digits).length : Int) + d.exponent).toNat - (Nat.toDigits 10 d.digits).length) '0')
      ['0'] none where
  text := by
    simp only [Layout.text, if_neg h, if_neg hsmall, if_pos hwhole, numberText, exponentText]
    simp
  isWhole := by
    obtain ⟨c, r, hds⟩ := List.exists_cons_of_ne_nil (Nat.toDigits_ne_nil (n := d.digits) (b := 10))
    have hhead := head_toDigits hd
    have hall := all_toDigits d.digits
    rw [hds] at hhead hall ⊢
    refine .inr ⟨⟨List.cons_ne_nil _ _, ?_⟩, hhead⟩
    rw [List.all_append, hall, Bool.true_and, List.all_replicate]
    simp [Text.isDigit]
  short := by
    have hgreatest : layout.greatestPoint = 16 := rfl
    rw [hgreatest] at h
    rw [List.length_append, List.length_replicate]
    omega
  isFraction := rfl
  value := by
    have hexponent : (10 : ℚ) ^ d.exponent
        = 10 ^ ((((Nat.toDigits 10 d.digits).length : Int) + d.exponent).toNat
          - (Nat.toDigits 10 d.digits).length) := by
      rw [← zpow_natCast]
      congr 1
      omega
    rw [List.append_assoc, Nat.ofDigitChars_append, Nat.ofDigitChars_ten_toDigits, Nat.ofDigitChars_append,
      Nat.ofDigitChars_replicate_zero, Decimal.quantity, hexponent]
    norm_num [Nat.ofDigitChars]
    ring

theorem spells_point (hd : d.digits ≠ 0)
    (h : ¬ (((Nat.toDigits 10 d.digits).length : Int) + d.exponent < layout.leastPoint
      ∨ layout.greatestPoint < ((Nat.toDigits 10 d.digits).length : Int) + d.exponent))
    (hsmall : ¬ ((Nat.toDigits 10 d.digits).length : Int) + d.exponent ≤ 0)
    (hwhole : ¬ (Nat.toDigits 10 d.digits).length ≤ (((Nat.toDigits 10 d.digits).length : Int) + d.exponent).toNat) :
    Spells d (layout.text d).toList
      ((Nat.toDigits 10 d.digits).take (((Nat.toDigits 10 d.digits).length : Int) + d.exponent).toNat)
      ((Nat.toDigits 10 d.digits).drop (((Nat.toDigits 10 d.digits).length : Int) + d.exponent).toNat) none where
  text := by
    have hne : (Nat.toDigits 10 d.digits).drop (((Nat.toDigits 10 d.digits).length : Int) + d.exponent).toNat ≠ [] := by
      rw [Ne, List.drop_eq_nil_iff]
      exact hwhole
    simp only [Layout.text, if_neg h, if_neg hsmall, if_neg hwhole, numberText, if_neg hne, exponentText]
    simp
  isWhole := wholeDigits_take hd (by omega)
  short := by
    have hgreatest : layout.greatestPoint = 16 := rfl
    rw [hgreatest] at h
    rw [List.length_take]
    omega
  isFraction := all_drop _ _
  value := by
    have hexponent : (0 : Int) - ((Nat.toDigits 10 d.digits).length
        - (((Nat.toDigits 10 d.digits).length : Int) + d.exponent).toNat : Nat) = d.exponent := by omega
    rw [List.take_append_drop, Nat.ofDigitChars_ten_toDigits, Option.getD_none, List.length_drop, hexponent,
      Decimal.quantity]

theorem spells_layout (hd : d.digits ≠ 0) :
    ∃ whole fraction exponent, Spells d (layout.text d).toList whole fraction exponent := by
  by_cases h : ((Nat.toDigits 10 d.digits).length : Int) + d.exponent < layout.leastPoint
      ∨ layout.greatestPoint < ((Nat.toDigits 10 d.digits).length : Int) + d.exponent
  · exact ⟨_, _, _, spells_exponent hd h⟩
  by_cases hsmall : ((Nat.toDigits 10 d.digits).length : Int) + d.exponent ≤ 0
  · exact ⟨_, _, _, spells_small h hsmall⟩
  by_cases hwhole : (Nat.toDigits 10 d.digits).length
      ≤ (((Nat.toDigits 10 d.digits).length : Int) + d.exponent).toNat
  · exact ⟨_, _, _, spells_whole hd h hsmall hwhole⟩
  · exact ⟨_, _, _, spells_point hd h hsmall hwhole⟩

theorem suffix_numberText {whole fraction : List Char} (hwhole : whole.all Text.isDigit = true)
    (hfraction : fraction.all Text.isDigit = true) {exponent : Option Int} (negative : Bool)
    (h : ['.', '0'] <:+ signText negative ++ numberText whole fraction exponent) :
    fraction = ['0'] ∧ exponent = none := by
  -- Two digits or more at the end leave no room for the point.
  have hdigits : ∀ {cs ds : List Char}, ['.', '0'] <:+ cs ++ ds → 2 ≤ ds.length →
      ds.all Text.isDigit = true → False := by
    intro cs ds hsuffix hlength hds
    have hmem := (List.suffix_of_suffix_length_le hsuffix (List.suffix_append cs ds) hlength).subset
      List.mem_cons_self
    exact not_digit_of_mem hds rfl hmem
  cases exponent with
  | some e =>
    obtain ⟨⟨-, hall⟩, -⟩ := padded_digits 2 e.natAbs
    have hlength : 2 ≤ (padded 2 e.natAbs).toList.length := by
      rw [padded, String.toList_append, List.length_append, String.toList_ofList, List.length_replicate,
        String.length_toList]
      omega
    have htext : signText negative ++ numberText whole fraction (some e)
        = (signText negative ++ (whole ++ ((if fraction = [] then [] else '.' :: fraction)
          ++ ['e', if e < 0 then '-' else '+']))) ++ (padded 2 e.natAbs).toList := by
      simp [numberText, exponentText]
    rw [htext] at h
    exact absurd (hdigits h hlength hall) id
  | none =>
    refine ⟨?_, rfl⟩
    cases fraction with
    | nil =>
      have hmem : '.' ∈ signText negative ++ whole := by
        have hsubset := h.subset List.mem_cons_self
        simpa [numberText, exponentText] using hsubset
      rcases List.mem_append.mp hmem with hmem | hmem
      · cases negative <;> simp [signText] at hmem
      · exact absurd hmem (not_digit_of_mem hwhole rfl)
    | cons c r =>
      have htext : signText negative ++ numberText whole (c :: r) none
          = (signText negative ++ (whole ++ ['.'])) ++ c :: r := by
        simp [numberText, exponentText]
      rw [htext] at h
      cases r with
      | nil =>
        obtain ⟨t, ht⟩ := h
        have hlast := congrArg List.getLast? ht
        simp only [List.getLast?_append, List.getLast?_cons_cons, List.getLast?_singleton]
          at hlast
        rw [Option.some.inj hlast]
      | cons c' r =>
        exact absurd (hdigits h (by simp) hfraction) id

end Double

/-- Whether a number is written without a fraction and an exponent. -/
def isWholeText (s : String) : Bool := s.toList.all fun c => c == '-' || Text.isDigit c

namespace Double
open Token

theorem isWholeText_digits {ds : List Char} (hds : ds.all Text.isDigit = true) (negative : Bool) {s : String}
    (hs : s.toList = signText negative ++ ds) : isWholeText s = true := by
  rw [isWholeText, hs, List.all_append, Bool.and_eq_true, List.all_eq_true, List.all_eq_true]
  refine ⟨by cases negative <;> simp [signText], fun c hc => ?_⟩
  rw [List.all_eq_true.mp hds c hc, Bool.or_true]

theorem isWholeText_numberText {whole fraction : List Char} {exponent : Option Int}
    (h : ¬ (fraction = [] ∧ exponent = none)) (negative : Bool) {s : String}
    (hs : s.toList = signText negative ++ numberText whole fraction exponent) : isWholeText s = false := by
  rw [isWholeText, List.all_eq_false, hs]
  by_cases hfraction : fraction = []
  · obtain ⟨e, rfl⟩ := Option.ne_none_iff_exists'.mp fun hnone => h ⟨hfraction, hnone⟩
    exact ⟨'e', by simp [numberText, exponentText], by decide⟩
  · exact ⟨'.', by simp [numberText, hfraction], by decide⟩

variable {m : Nat} {e : Int}

/-- How a finite number is written. -/
structure IsWritten (negative : Bool) (m : Nat) (e : Int) (s : String) (whole fraction : List Char)
    (exponent : Option Int) : Prop where
  text : s.toList = signText negative ++ numberText whole fraction exponent
  isWhole : WholeDigits whole
  short : whole.length ≤ 16
  isFraction : fraction.all Text.isDigit = true
  value : ofDecimal negative (Nat.ofDigitChars 10 (whole ++ fraction) 0)
    (exponent.getD 0 - fraction.length) = .finite negative m e

theorem written_floatDigits (h : IsLegal m e) (negative : Bool) : ∃ whole fraction exponent,
    IsWritten negative m e (floatDigits (.finite negative m e)) whole fraction exponent := by
  by_cases hm : m = 0
  · subst hm
    obtain rfl : e = leastExponent := h.normal.resolve_left (by decide)
    refine ⟨['0'], [], none, ?_, .inl rfl, by decide, rfl, ?_⟩
    · cases negative <;> decide
    · cases negative <;> decide
  · have hround := shortest_roundsTo h hm
    have hdigits : (shortest m e).digits ≠ 0 := by
      intro hzero
      have hpos := hround.pos hm
      rw [Decimal.quantity, hzero] at hpos
      simp at hpos
    obtain ⟨whole, fraction, exponent, hspells⟩ := spells_layout hdigits
    have htext : (Double.text (.finite negative m e)).toList
        = signText negative ++ numberText whole fraction exponent := by
      rw [Double.text, if_neg hm, String.toList_append, hspells.text]
      cases negative <;> rfl
    rw [floatDigits, htext]
    split
    -- A fraction of zero is left out.
    · next hsuffix =>
      obtain ⟨rfl, rfl⟩ := suffix_numberText hspells.isWhole.digits.2 hspells.isFraction negative
        (List.isSuffixOf_iff_suffix.mp hsuffix)
      refine ⟨whole, [], none, ?_, hspells.isWhole, hspells.short, rfl, ?_⟩
      · have hpoint : signText negative ++ numberText whole ['0'] none = (signText negative ++ whole) ++ ['.', '0'] := by
          simp [numberText, exponentText]
        rw [hpoint, String.toList_ofList, List.take_left' (by simp only [List.length_append, List.length_cons, List.length_nil]; omega), numberText,
          if_pos rfl, exponentText, List.append_nil, List.append_nil]
      · refine ofDecimal_of_roundsTo h hm ?_ negative
        have hvalue : (Nat.ofDigitChars 10 (whole ++ []) 0 : ℚ) * 10 ^ (Option.getD none 0 - ([] : List Char).length : Int)
            = (shortest m e).quantity := by
          rw [← hspells.value, Nat.ofDigitChars_append, Nat.ofDigitChars_append]
          norm_num [Nat.ofDigitChars]
          ring
        rw [hvalue]
        exact hround
    · refine ⟨whole, fraction, exponent, by rw [String.toList_ofList], hspells.isWhole, hspells.short,
        hspells.isFraction, ?_⟩
      refine ofDecimal_of_roundsTo h hm ?_ negative
      rw [hspells.value]
      exact hround

/-- A finite number is the value of its digits. -/
theorem doubleOfText_floatDigits (h : IsLegal m e) (negative : Bool) :
    doubleOfText (floatDigits (.finite negative m e)) = .finite negative m e := by
  obtain ⟨whole, fraction, exponent, hwritten⟩ := written_floatDigits h negative
  rw [doubleOfText_numberText hwritten.isWhole.digits hwritten.isFraction exponent negative hwritten.text]
  exact hwritten.value

/-- Finite numbers have the significands and exponents that finite numbers have. -/
def IsCanonical : Double → Prop
  | .finite _ m e => IsLegal m e
  | _ => True

theorem canonical_ofRatio (negative : Bool) (num : Nat) {den : Nat} (hden : den ≠ 0) :
    (ofRatio negative num den).IsCanonical := by
  cases h : ofRatio negative num den with
  | finite n m e => exact legal_ofRatio hden h
  | infinite n => trivial
  | nan => trivial

theorem canonical_ofDecimal (negative : Bool) (digits : Nat) (exponent : Int) :
    (ofDecimal negative digits exponent).IsCanonical := by
  rw [ofDecimal]
  split
  · exact ⟨by decide, le_refl _, by decide, .inr rfl⟩
  split
  · trivial
  split
  · exact canonical_ofRatio _ _ one_ne_zero
  · refine canonical_ofRatio _ _ ?_
    rw [Nat.pow_eq]
    positivity

theorem canonical_doubleOfText (s : String) : (doubleOfText s).IsCanonical := canonical_ofDecimal _ _ _

/-- The digits of a number with a fraction or an exponent are a token. -/
theorem isFloatText_floatDigits (h : IsLegal m e) (negative : Bool)
    (hwhole : isWholeText (floatDigits (.finite negative m e)) = false) :
    IsFloatText (floatDigits (.finite negative m e)) := by
  obtain ⟨whole, fraction, exponent, hwritten⟩ := written_floatDigits h negative
  refine isFloatText_numberText hwritten.isWhole hwritten.isFraction ?_ negative hwritten.text
  rintro ⟨rfl, rfl⟩
  have htext := hwritten.text
  rw [numberText, if_pos rfl, exponentText, List.append_nil, List.append_nil] at htext
  rw [isWholeText_digits hwritten.isWhole.digits.2 negative htext] at hwhole
  cases hwhole

theorem wholeDigits_floatDigits (h : IsLegal m e) (negative : Bool)
    (hwhole : isWholeText (floatDigits (.finite negative m e)) = true) :
    ∃ whole, (floatDigits (.finite negative m e)).toList = signText negative ++ whole ∧ WholeDigits whole
      ∧ whole.length ≤ 16 := by
  obtain ⟨whole, fraction, exponent, hwritten⟩ := written_floatDigits h negative
  by_cases hplain : fraction = [] ∧ exponent = none
  · obtain ⟨rfl, rfl⟩ := hplain
    have htext := hwritten.text
    rw [numberText, if_pos rfl, exponentText, List.append_nil, List.append_nil] at htext
    exact ⟨whole, htext, hwritten.isWhole, hwritten.short⟩
  · rw [isWholeText_numberText hplain negative hwritten.text] at hwhole
    cases hwhole

end Double

section Integers
open Token Double

theorem digit_bounds {c : Char} (h : Text.isDigit c = true) : 48 ≤ c.toNat ∧ c.toNat ≤ 57 := by
  rw [Text.isDigit, Bool.and_eq_true, decide_eq_true_eq, decide_eq_true_eq] at h
  exact ⟨h.1, h.2⟩

theorem plain_digits {ds : List Char} (h : ds.all Text.isDigit = true) : Numeral.plain ds = ds := by
  induction ds with
  | nil => rfl
  | cons c ds ih =>
    rw [List.all_cons, Bool.and_eq_true] at h
    have hc := digit_bounds h.1
    rw [Numeral.plain, if_pos (by omega), ih h.2]

theorem plain_signed {ds : List Char} (h : ds.all Text.isDigit = true) (negative : Bool) :
    Numeral.plain (signText negative ++ ds) = signText negative ++ ds := by
  cases negative with
  | false => exact plain_digits h
  | true =>
    show Numeral.plain ('-' :: ds) = '-' :: ds
    rw [Numeral.plain, if_pos (by decide), plain_digits h]

theorem trimmed_of_noBlank {cs : List Char} (h : ∀ c ∈ cs, Numeral.isBlank c = false) :
    Numeral.trimmed cs = cs := by
  have hdrop : ∀ {cs : List Char}, (∀ c ∈ cs, Numeral.isBlank c = false) → cs.dropWhile Numeral.isBlank = cs := by
    intro cs h
    cases cs with
    | nil => rfl
    | cons c cs => rw [List.dropWhile_cons_of_neg (by rw [h c List.mem_cons_self]; exact Bool.false_ne_true)]
  rw [Numeral.trimmed, hdrop h, hdrop fun c hc => h c (List.mem_reverse.mp hc), List.reverse_reverse]

theorem noBlank_digit {c : Char} (h : Text.isDigit c = true) : Numeral.isBlank c = false := by
  have hc := digit_bounds h
  rw [Numeral.isBlank, Bool.or_eq_false_iff, Bool.and_eq_false_iff, beq_eq_false_iff_ne,
    decide_eq_false_iff_not, decide_eq_false_iff_not]
  refine ⟨?_, .inr fun hle => ?_⟩
  · rintro rfl
    exact absurd hc.1 (by decide)
  · have hle' : c.toNat ≤ '\r'.toNat := hle
    have hval : '\r'.toNat = 13 := rfl
    omega

theorem signed_signText {ds : List Char} (h : Digits ds) (negative : Bool) :
    Numeral.signed (signText negative ++ ds) = (negative, ds) := by
  cases negative with
  | true => rfl
  | false =>
    show Numeral.signed ds = (false, ds)
    rw [Numeral.signed]
    · rintro r rfl
      exact not_digit_of_mem h.2 rfl List.mem_cons_self
    · rintro r rfl
      exact not_digit_of_mem h.2 rfl List.mem_cons_self

theorem withoutMark_ten (ds : List Char) : Numeral.withoutMark 10 ds = ds := by
  unfold Numeral.withoutMark
  split
  · exact if_neg nofun
  · rfl

theorem isDigitOf_ten {c : Char} (h : Text.isDigit c = true) : Numeral.isDigitOf 10 c = true := by
  have hc := digit_bounds h
  rw [Numeral.isDigitOf, Text.hexValue?, if_pos h, Option.any_some, decide_eq_true_eq]
  omega

theorem valueOf_ten {ds : List Char} (h : ds.all Text.isDigit = true) :
    Numeral.valueOf 10 ds = Nat.ofDigitChars 10 ds 0 := by
  have hstep : ∀ (ds : List Char) (n : Nat), ds.all Text.isDigit = true →
      ds.foldl (fun n c => n * 10 + (Text.hexValue? c).getD 0) n = Nat.ofDigitChars 10 ds n := by
    intro ds
    induction ds with
    | nil => intro n _; rfl
    | cons c ds ih =>
      intro n hds
      rw [List.all_cons, Bool.and_eq_true] at hds
      rw [List.foldl_cons, ih _ hds.2, Nat.ofDigitChars_cons, Text.hexValue?, if_pos hds.1, Option.getD_some,
        Nat.mul_comm]
      rfl
  exact hstep ds 0 h

theorem ungrouped_digits {ds : List Char} (h : Digits ds) :
    Numeral.ungrouped? (Numeral.isDigitOf 10) ds = some ds := by
  have hnone : ∀ c ∈ ds, (c == '_') = false := by
    intro c hc
    rw [beq_eq_false_iff_ne]
    rintro rfl
    exact not_digit_of_mem h.2 rfl hc
  have hall : (!ds.isEmpty && ds.all (Numeral.isDigitOf 10)) = true := by
    rw [Bool.and_eq_true, Bool.not_eq_true', List.isEmpty_eq_false_iff, List.all_eq_true]
    exact ⟨h.1, fun c hc => isDigitOf_ten (List.all_eq_true.mp h.2 c hc)⟩
  simp only [Numeral.ungrouped?, Text.splitAt_of_all hnone, List.all_cons, List.all_nil, hall, Bool.and_true,
    if_true, List.flatten_cons, List.flatten_nil, List.append_nil]

theorem numeral_digits {ds : List Char} (hds : Digits ds) (negative : Bool) {s : String}
    (hs : s.toList = signText negative ++ ds) (hlength : ds.length ≤ Numeral.mostDigits) :
    Numeral.int 10 s
      = .ok (if negative then -(Nat.ofDigitChars 10 ds 0 : Int) else Nat.ofDigitChars 10 ds 0) := by
  have hrun : ds.all (fun c => Numeral.isDigitOf 10 c || c == '_') = true := by
    rw [List.all_eq_true]
    intro c hc
    rw [isDigitOf_ten (List.all_eq_true.mp hds.2 c hc), Bool.true_or]
  have hend : ∀ c ∈ ([] : List Char).head?, (Numeral.isDigitOf 10 c || c == '_') = false := by simp
  obtain ⟨htake, hdrop⟩ := takeWhile_append_of_all hrun hend
  have hblank : ∀ c ∈ signText negative ++ ds, Numeral.isBlank c = false := by
    intro c hc
    rcases List.mem_append.mp hc with hc | hc
    · cases negative with
      | false => cases hc
      | true =>
        rw [List.mem_singleton.mp hc]
        decide
    · exact noBlank_digit (List.all_eq_true.mp hds.2 c hc)
  rw [List.append_nil] at htake hdrop
  simp only [Numeral.int, hs, plain_signed hds.2, trimmed_of_noBlank hblank, signed_signText hds,
    withoutMark_ten, htake, hdrop, ungrouped_digits hds, valueOf_ten hds.2]
  rw [if_neg (by omega)]
  rfl

theorem digitChar_digit {c : Char} (h : Text.isDigit c = true) : (c.toNat - 48).digitChar = c := by
  have hc := digit_bounds h
  have hall : ∀ k < 10, (k.digitChar).toNat = k + 48 := by decide
  have hnat := hall (c.toNat - 48) (by omega)
  rw [Nat.sub_add_cancel hc.1] at hnat
  exact Char.toNat_inj.mp hnat

theorem toDigits_ofDigitChars {ds : List Char} (h : WholeDigits ds) :
    Nat.toDigits 10 (Nat.ofDigitChars 10 ds 0) = ds ∧ (ds ≠ ['0'] → Nat.ofDigitChars 10 ds 0 ≠ 0) := by
  rcases h with rfl | ⟨hdigits, hhead⟩
  · exact ⟨rfl, fun hne => absurd rfl hne⟩
  suffices h : Nat.toDigits 10 (Nat.ofDigitChars 10 ds 0) = ds ∧ Nat.ofDigitChars 10 ds 0 ≠ 0 from
    ⟨h.1, fun _ => h.2⟩
  induction ds using List.reverseRecOn with
  | nil => exact absurd rfl hdigits.1
  | append_singleton ds c ih =>
    obtain ⟨hall, hc⟩ : ds.all Text.isDigit = true ∧ Text.isDigit c = true := by
      have hdigitsAll := hdigits.2
      rw [List.all_append, Bool.and_eq_true, List.all_cons, List.all_nil, Bool.and_true] at hdigitsAll
      exact hdigitsAll
    have hbounds := digit_bounds hc
    have hvalue : Nat.ofDigitChars 10 (ds ++ [c]) 0 = 10 * Nat.ofDigitChars 10 ds 0 + (c.toNat - 48) := by
      rw [Nat.ofDigitChars_append]
      rfl
    have hlast : Nat.toDigits 10 (c.toNat - 48) = [c] := by
      rw [Nat.toDigits_of_lt_base (by omega), digitChar_digit hc]
    rw [hvalue]
    by_cases hempty : ds = []
    · subst hempty
      have hne : c ≠ '0' := fun heq => hhead (heq ▸ rfl)
      have hzero : c.toNat ≠ 48 := fun heq => hne (Char.toNat_inj.mp heq)
      rw [Nat.ofDigitChars_nil, Nat.mul_zero, Nat.zero_add, hlast]
      exact ⟨rfl, by omega⟩
    · rw [List.head?_append_of_ne_nil _ hempty] at hhead
      obtain ⟨hmore, hpos⟩ := ih ⟨hempty, hall⟩ hhead
      rw [← Nat.toDigits_append_toDigits (by decide) (Nat.pos_of_ne_zero hpos) (by omega), hmore, hlast]
      exact ⟨rfl, by omega⟩

theorem toString_signed {negative : Bool} {n : Nat} (h : negative = true → n ≠ 0) :
    (toString (if negative then -(n : Int) else n)).toList = signText negative ++ Nat.toDigits 10 n := by
  cases negative with
  | false =>
    show (Nat.repr n).toList = _
    rw [Nat.repr_eq_ofList_toDigits, String.toList_ofList]
    rfl
  | true =>
    obtain ⟨n, rfl⟩ := Nat.exists_eq_succ_of_ne_zero (h rfl)
    show ("-" ++ Nat.repr n.succ).toList = '-' :: Nat.toDigits 10 n.succ
    rw [String.toList_append, Nat.repr_eq_ofList_toDigits]
    exact congrArg ('-' :: ·) String.toList_ofList

theorem signed_natAbs (k : Int) :
    (if (decide (k < 0)) = true then -(k.natAbs : Int) else k.natAbs) = k
      ∧ (decide (k < 0) = true → k.natAbs ≠ 0) := by
  constructor
  · by_cases hk : k < 0
    · rw [decide_eq_true hk, if_pos rfl]
      omega
    · rw [decide_eq_false hk, if_neg Bool.false_ne_true]
      omega
  · intro h
    have := of_decide_eq_true h
    omega

theorem toString_int (k : Int) :
    (toString k).toList = signText (decide (k < 0)) ++ Nat.toDigits 10 k.natAbs := by
  obtain ⟨hvalue, hpos⟩ := signed_natAbs k
  rw [← toString_signed hpos, hvalue]

theorem isIntText_toString (k : Int) : IsIntText (toString k) :=
  isIntText_numberText (wholeDigits_toDigits _) _ (toString_int k)

theorem intOfText_toString (k : Int) : intOfText (toString k) = k := by
  rw [intOfText_digits (digits_toDigits _) _ (toString_int k), Nat.ofDigitChars_ten_toDigits]
  exact (signed_natAbs k).1

theorem plainInt_toString {k : Int} (h : k.natAbs < 10 ^ Numeral.mostDigits) :
    Literal.plainInt (toString k) = .int k := by
  have hlength : (Nat.toDigits 10 k.natAbs).length ≤ Numeral.mostDigits :=
    (Nat.length_toDigits_le_iff (by decide) (by decide)).mpr h
  rw [Literal.plainInt, numeral_digits (digits_toDigits _) _ (toString_int k) hlength,
    Nat.ofDigitChars_ten_toDigits, (signed_natAbs k).1]

theorem valueOf_lt {ds : List Char} (h : ds.all (Numeral.isDigitOf 10) = true) :
    Numeral.valueOf 10 ds < 10 ^ ds.length := by
  induction ds using List.reverseRecOn with
  | nil => decide
  | append_singleton ds c ih =>
    rw [List.all_append, Bool.and_eq_true, List.all_cons, List.all_nil, Bool.and_true] at h
    have hmore := ih h.1
    have hc : (Text.hexValue? c).getD 0 < 10 := by
      have hdigit := h.2
      rw [Numeral.isDigitOf] at hdigit
      cases hvalue : Text.hexValue? c with
      | none => decide
      | some d =>
        rw [hvalue] at hdigit
        exact of_decide_eq_true hdigit
    rw [Numeral.valueOf, List.foldl_append, List.foldl_cons, List.foldl_nil, List.length_append,
      List.length_singleton, Nat.pow_succ]
    rw [Numeral.valueOf] at hmore
    omega

theorem ungrouped_all {p : Char → Bool} {cs ds : List Char} (h : Numeral.ungrouped? p cs = some ds) :
    ds.all p = true := by
  simp only [Numeral.ungrouped?] at h
  split at h
  · next hall =>
    rw [← Option.some.inj h, List.all_eq_true]
    intro c hc
    obtain ⟨g, hg, hmem⟩ := List.mem_flatten.mp hc
    have hgroup := List.all_eq_true.mp hall g hg
    rw [Bool.and_eq_true] at hgroup
    exact List.all_eq_true.mp hgroup.2 c hmem
  · cases h

theorem natAbs_lt_of_numeral {s : String} {k : Int} (h : Numeral.int 10 s = .ok k) :
    k.natAbs < 10 ^ Numeral.mostDigits := by
  simp only [Numeral.int] at h
  split at h
  · cases h
  · next ds hds =>
    split at h
    · cases h
    next hlength =>
    split at h
    · cases h
    · have hlt := valueOf_lt (ungrouped_all hds)
      have hle : 10 ^ ds.length ≤ 10 ^ Numeral.mostDigits := by
        refine Nat.pow_le_pow_right (by decide) ?_
        by_contra hgt
        exact hlength ⟨trivial, not_le.mp hgt⟩
      rw [← Except.ok.inj h]
      split <;> omega

theorem plainInt_floatDigits {m : Nat} {e : Int} (h : IsLegal m e) {negative : Bool}
    (hwhole : isWholeText (floatDigits (.finite negative m e)) = true)
    (hzero : ¬ (negative = true ∧ m = 0)) :
    ∃ k : Int, Literal.plainInt (floatDigits (.finite negative m e)) = .int k
      ∧ toString k = floatDigits (.finite negative m e) := by
  obtain ⟨whole, htext, hdigits, hshort⟩ := wholeDigits_floatDigits h negative hwhole
  obtain ⟨hsame, hpos⟩ := toDigits_ofDigitChars hdigits
  have hlength : whole.length ≤ Numeral.mostDigits := hshort.trans (by decide)
  have hnegative : negative = true → Nat.ofDigitChars 10 whole 0 ≠ 0 := by
    rintro rfl hvalue
    have hdouble := doubleOfText_floatDigits h true
    have hparts : (floatDigits (.finite true m e)).toList = signText true ++ numberText whole [] none := by
      rw [htext, numberText, if_pos rfl, exponentText, List.append_nil, List.append_nil]
    rw [doubleOfText_numberText hdigits.digits rfl none true hparts, List.append_nil, hvalue] at hdouble
    exact hzero ⟨rfl, (Double.finite.inj hdouble).2.1.symm⟩
  refine ⟨_, by rw [Literal.plainInt, numeral_digits hdigits.digits negative htext hlength], ?_⟩
  rw [← String.toList_inj, toString_signed hnegative, hsame, htext]

end Integers
end Subgraph
