import Mathlib.Data.Nat.Cast.Order.Field
import Subgraph.Proofs.Rounding

/-!
# Shortest decimals read back

The decimal that is found for a binary number rounds to that number: the grid of seventeen digits is so
fine that one of the two points around the number does. So the number is read from its digits again.
-/

namespace Subgraph

namespace Decimal

/-- The rational number that a decimal is. -/
def quantity (d : Decimal) : ℚ := d.digits * 10 ^ d.exponent

theorem ten_zpow_pos (e : Int) : (0 : ℚ) < 10 ^ e := zpow_pos (by norm_num) e

theorem lt_pow_width (n : Nat) : n < 10 ^ width n :=
  (Nat.length_toDigits_le_iff (by decide) Nat.length_toDigits_pos).mp (le_refl _)

theorem pow_width_le {n : Nat} (hn : n ≠ 0) : 10 ^ (width n - 1) ≤ n := by
  by_contra hlt
  rcases Nat.eq_zero_or_pos (width n - 1) with hzero | hpos
  · rw [hzero] at hlt
    omega
  · have hle := (Nat.length_toDigits_le_iff (b := 10) (by decide) hpos).mpr (not_le.mp hlt)
    have hwidth : 0 < width n := Nat.length_toDigits_pos
    rw [← width] at hle
    omega

theorem width_pos (n : Nat) : 0 < width n := Nat.length_toDigits_pos

theorem width_cast (n : Nat) : ((width n - 1 : Nat) : Int) = (width n : Int) - 1 := by
  have := width_pos n
  omega

theorem width_zpow {n : Nat} (hn : n ≠ 0) :
    (10 : ℚ) ^ ((width n : Int) - 1) ≤ n ∧ (n : ℚ) < 10 ^ (width n : Int) := by
  rw [← width_cast, zpow_natCast, zpow_natCast]
  exact ⟨by exact_mod_cast pow_width_le hn, by exact_mod_cast lt_pow_width n⟩

theorem width_exponent {n : Nat} (hn : n ≠ 0) (exponent : Int) :
    (10 : ℚ) ^ ((width n : Int) + exponent - 1) ≤ n * 10 ^ exponent
      ∧ (n * 10 ^ exponent : ℚ) < 10 ^ ((width n : Int) + exponent) := by
  have hten : (10 : ℚ) ≠ 0 := by norm_num
  obtain ⟨hlow, hhigh⟩ := width_zpow hn
  constructor
  · have heq : (width n : Int) + exponent - 1 = (width n : Int) - 1 + exponent := by ring
    rw [heq, zpow_add₀ hten]
    exact mul_le_mul_of_nonneg_right hlow (ten_zpow_pos exponent).le
  · rw [zpow_add₀ hten]
    exact mul_lt_mul_of_pos_right hhigh (ten_zpow_pos exponent)

theorem pointPosition_spec {num den : Nat} (hnum : num ≠ 0) (hden : den ≠ 0) :
    (10 : ℚ) ^ (pointPosition num den - 1) ≤ num / den
      ∧ (num / den : ℚ) < 10 ^ pointPosition num den := by
  have hdenPos : (0 : ℚ) < den := by exact_mod_cast Nat.pos_of_ne_zero hden
  have hnumPos : (0 : ℚ) < num := by exact_mod_cast Nat.pos_of_ne_zero hnum
  rw [pointPosition]
  split
  · next hle =>
    have hq : num / den ≠ 0 := (Nat.div_pos hle (Nat.pos_of_ne_zero hden)).ne'
    have hlow := pow_width_le hq
    have hhigh := lt_pow_width (num / den)
    rw [← width_cast, zpow_natCast, zpow_natCast, le_div_iff₀ hdenPos, div_lt_iff₀ hdenPos]
    constructor
    · exact_mod_cast (Nat.le_div_iff_mul_le (Nat.pos_of_ne_zero hden)).mp hlow
    · exact_mod_cast (Nat.div_lt_iff_lt_mul (Nat.pos_of_ne_zero hden)).mp hhigh
  · next hlt =>
    -- Below one the position is counted from the reciprocal.
    have hq : (den - 1) / num ≠ 0 := (Nat.div_pos (by omega) (Nat.pos_of_ne_zero hnum)).ne'
    have hlow := pow_width_le hq
    have hhigh := lt_pow_width ((den - 1) / num)
    have hle : num * 10 ^ (width ((den - 1) / num) - 1) < den := by
      have h := (Nat.le_div_iff_mul_le (Nat.pos_of_ne_zero hnum)).mp hlow
      rw [mul_comm]
      omega
    have hge : den ≤ num * 10 ^ width ((den - 1) / num) := by
      have h := (Nat.div_lt_iff_lt_mul (Nat.pos_of_ne_zero hnum)).mp hhigh
      rw [mul_comm]
      omega
    have hexp : (1 : Int) - width ((den - 1) / num) - 1 = -(width ((den - 1) / num) : Int) := by ring
    have hexp' : (1 : Int) - width ((den - 1) / num) = -((width ((den - 1) / num) - 1 : Nat) : Int) := by
      rw [width_cast]
      ring
    rw [hexp, hexp', zpow_neg, zpow_neg, zpow_natCast, zpow_natCast]
    constructor
    · rw [inv_eq_one_div, div_le_div_iff₀ (by positivity) hdenPos, one_mul]
      exact_mod_cast hge
    · rw [inv_eq_one_div, div_lt_div_iff₀ hdenPos (by positivity), one_mul]
      exact_mod_cast hle

end Decimal

namespace Double
variable {m : Nat} {e : Int}

theorem RoundsTo.pos {x : ℚ} (h : RoundsTo m e x) (hm : m ≠ 0) : 0 < x := by
  have hlower := h.lower
  have hgap := gapBelow_le m e
  have hone : (1 : ℚ) ≤ m := by exact_mod_cast Nat.one_le_iff_ne_zero.mpr hm
  have hunits : 0 < x / 2 ^ e := by linarith
  exact (div_pos_iff_of_pos_right (two_zpow_pos e)).mp hunits

theorem two_pow_lt_ten_pow : (2 : ℚ) ^ (1089 : Nat) < 10 ^ (330 : Nat) := by
  have hbase : (2 : ℚ) ^ 33 < 10 ^ 10 := by norm_num
  have hpow := pow_lt_pow_left₀ hbase (by positivity) (n := 33) (by decide)
  rwa [← pow_mul, ← pow_mul] at hpow

theorem ten_zpow_lt_least : (10 : ℚ) ^ (-331 : Int) < 1 / 2 * 2 ^ (-1074 : Int) := by
  calc (10 : ℚ) ^ (-331 : Int)
      ≤ 10 ^ (-(330 : Nat) : Int) := zpow_le_zpow_right₀ (by norm_num) (by decide)
    _ < 2 ^ (-(1089 : Nat) : Int) := by
        rw [zpow_neg, zpow_neg, zpow_natCast, zpow_natCast]
        exact inv_strictAnti₀ (by positivity) two_pow_lt_ten_pow
    _ ≤ 2 ^ (-1075 : Int) := zpow_le_zpow_right₀ (by norm_num) (by decide)
    _ = 1 / 2 * 2 ^ (-1074 : Int) := by
        rw [show (-1075 : Int) = -1 + -1074 by decide, zpow_add₀ (by norm_num)]
        norm_num

theorem greatest_lt_ten_zpow : (2 : ℚ) ^ (53 : Int) * 2 ^ (971 : Int) < 10 ^ (330 : Int) := by
  rw [← zpow_add₀ (by norm_num)]
  calc (2 : ℚ) ^ ((53 : Int) + 971)
      ≤ 2 ^ ((1089 : Nat) : Int) := zpow_le_zpow_right₀ (by norm_num) (by decide)
    _ < 10 ^ (330 : Int) := by
        rw [zpow_natCast]
        exact_mod_cast two_pow_lt_ten_pow

theorem RoundsTo.bounds {x : ℚ} (hx : RoundsTo m e x) (h : IsLegal m e) (hm : m ≠ 0) :
    1 / 2 * 2 ^ (-1074 : Int) ≤ x ∧ x ≤ 2 ^ (53 : Int) * 2 ^ (971 : Int) := by
  have htwo : (1 : ℚ) ≤ 2 := by norm_num
  have hlower := hx.lower
  have hupper := hx.upper
  have hgap := gapBelow_le m e
  rw [le_div_iff₀ (two_zpow_pos e)] at hlower
  rw [div_le_iff₀ (two_zpow_pos e)] at hupper
  constructor
  · refine le_trans ?_ hlower
    have hcast : (1 : ℚ) ≤ m := by exact_mod_cast Nat.one_le_iff_ne_zero.mpr hm
    have hleast : (2 : ℚ) ^ (-1074 : Int) ≤ 2 ^ e := zpow_le_zpow_right₀ htwo h.least
    exact mul_le_mul (by linarith) hleast (two_zpow_pos _).le (by linarith)
  · refine hupper.trans ?_
    have hwidth : (m : ℚ) + 1 ≤ 2 * hiddenBit := by exact_mod_cast h.width
    rw [hiddenBit_cast] at hwidth
    have hgreatest : (2 : ℚ) ^ e ≤ 2 ^ (971 : Int) := zpow_le_zpow_right₀ htwo h.greatest
    refine mul_le_mul ?_ hgreatest (two_zpow_pos e).le (by positivity)
    norm_num at hwidth ⊢
    linarith

theorem magnitude_bounds (h : IsLegal m e) (hm : m ≠ 0) {digits : Nat} (hdigits : digits ≠ 0) {exponent : Int}
    (hx : RoundsTo m e (digits * 10 ^ exponent)) :
    ¬ ((Nat.toDigits 10 digits).length + exponent < -330)
      ∧ ¬ (330 < (Nat.toDigits 10 digits).length + exponent) := by
  have hone : (1 : ℚ) ≤ 10 := by norm_num
  obtain ⟨hlow, hhigh⟩ := Decimal.width_exponent hdigits exponent
  obtain ⟨hleast, hgreatest⟩ := hx.bounds h hm
  rw [← Decimal.width]
  constructor
  · intro hsmall
    have hbound : (10 : ℚ) ^ ((Decimal.width digits : Int) + exponent) ≤ 10 ^ (-331 : Int) :=
      zpow_le_zpow_right₀ hone (by omega)
    exact absurd (hleast.trans (hhigh.le.trans hbound)) (not_le.mpr ten_zpow_lt_least)
  · intro hlarge
    have hbound : (10 : ℚ) ^ (330 : Int) ≤ 10 ^ ((Decimal.width digits : Int) + exponent - 1) :=
      zpow_le_zpow_right₀ hone (by omega)
    exact absurd (hbound.trans (hlow.trans hgreatest)) (not_le.mpr greatest_lt_ten_zpow)

/-- Decimals in the interval of a number are read as it. -/
theorem ofDecimal_of_roundsTo (h : IsLegal m e) (hm : m ≠ 0) {digits : Nat} {exponent : Int}
    (hx : RoundsTo m e (digits * 10 ^ exponent)) (negative : Bool) :
    ofDecimal negative digits exponent = .finite negative m e := by
  have hdigits : digits ≠ 0 := by
    rintro rfl
    have hpos := hx.pos hm
    simp at hpos
  obtain ⟨hsmall, hlarge⟩ := magnitude_bounds h hm hdigits hx
  rw [ofDecimal]
  simp only [hdigits, hsmall, hlarge, false_or, if_false]
  split
  · next hexponent =>
    obtain ⟨k, rfl⟩ := Int.eq_ofNat_of_zero_le hexponent
    rw [Int.toNat_natCast, Nat.pow_eq]
    refine ofRatio_of_roundsTo h (Nat.mul_ne_zero hdigits (by positivity)) one_ne_zero ?_ negative
    rw [zpow_natCast] at hx
    push_cast
    rwa [div_one]
  · next hexponent =>
    obtain ⟨k, hk⟩ := Int.eq_ofNat_of_zero_le (show 0 ≤ -exponent by omega)
    obtain rfl : exponent = -(k : Int) := by omega
    rw [neg_neg, Int.toNat_natCast, Nat.pow_eq]
    refine ofRatio_of_roundsTo h hdigits (by positivity) ?_ negative
    rw [zpow_neg, zpow_natCast] at hx
    push_cast
    rwa [div_eq_mul_inv]

section Search

/-- One of the two points around a number rounds to it, where the points lie close enough. -/
theorem roundsTo_neighbour (h : IsLegal m e) {c : Nat} {g : Int}
    (hbelow : (c * 10 ^ g : ℚ) ≤ m * 2 ^ e) (habove : (m * 2 ^ e : ℚ) < (c + 1 : Nat) * 10 ^ g)
    (hclose : (10 : ℚ) ^ (g + 16) ≤ m * 2 ^ e) :
    RoundsTo m e (c * 10 ^ g) ∨ RoundsTo m e ((c + 1 : Nat) * 10 ^ g) := by
  have hpos := two_zpow_pos e
  have hten : (10 : ℚ) ≠ 0 := by norm_num
  have hwidth : (m : ℚ) + 1 ≤ 2 * hiddenBit := by exact_mod_cast h.width
  rw [hiddenBit_cast] at hwidth
  -- everything in units of the last place
  have hbelow' : (c * 10 ^ g : ℚ) / 2 ^ e ≤ m := by rwa [div_le_iff₀ hpos]
  have habove' : (m : ℚ) < (c + 1 : Nat) * 10 ^ g / 2 ^ e := by rwa [lt_div_iff₀ hpos]
  have hstep : ((c + 1 : Nat) * 10 ^ g : ℚ) / 2 ^ e = c * 10 ^ g / 2 ^ e + 10 ^ g / 2 ^ e := by
    push_cast
    ring
  have hspacing : (10 : ℚ) ^ g / 2 ^ e * 10 ^ (16 : Nat) ≤ m := by
    rw [zpow_add₀ hten] at hclose
    rw [div_mul_eq_mul_div, div_le_iff₀ hpos]
    exact_mod_cast hclose
  rw [hstep] at habove'
  rw [RoundsTo, RoundsTo, hstep]
  generalize (c * 10 ^ g : ℚ) / 2 ^ e = y at *
  generalize (10 : ℚ) ^ g / 2 ^ e = d at *
  have hgap := gapBelow_pos m e
  norm_num at hspacing hwidth
  by_cases hhidden : m = hiddenBit
  · rw [hhidden, hiddenBit_cast] at hspacing
    norm_num at hspacing
    exact .inr (.inl ⟨by linarith, by linarith⟩)
  · have hgapEq : gapBelow m e = 1 / 2 := if_neg fun heq => hhidden heq.1
    rw [hgapEq]
    by_cases hnear : (m : ℚ) - 1 / 2 < y
    · exact .inl (.inl ⟨hnear, by linarith⟩)
    · exact .inr (.inl ⟨by linarith, by linarith⟩)

variable {num den : Nat} {k : Int}

/-- One of the two points around a quotient, on the grid of some digits, rounds to the number. -/
def Hits (m : Nat) (e : Int) (num den : Nat) (k : Int) (n : Nat) : Prop :=
  let s := Decimal.scaled num den (k - n)
  readsBack m e (s.1 / s.2) (k - n) = true ∨ readsBack m e (s.1 / s.2 + 1) (k - n) = true

theorem searchGrids_spec (hm : m ≠ 0) {fuel n : Nat} (h : ∃ i < fuel, Hits m e num den k (n + i)) :
    RoundsTo m e (searchGrids m e num den k fuel n).quantity := by
  induction fuel generalizing n with
  | zero =>
    obtain ⟨i, hi, -⟩ := h
    exact absurd hi (Nat.not_lt_zero i)
  | succ fuel ih =>
    rw [searchGrids]
    split
    · next hlow hhigh =>
      split
      · exact (readsBack_iff hm _ _ _).mp hlow
      · exact (readsBack_iff hm _ _ _).mp hhigh
    · next hlow _ => exact (readsBack_iff hm _ _ _).mp hlow
    · next _ hhigh => exact (readsBack_iff hm _ _ _).mp hhigh
    · next hlow hhigh =>
      refine ih ?_
      obtain ⟨i, hi, hit⟩ := h
      cases i with
      | zero =>
        rw [Nat.add_zero] at hit
        rcases hit with hit | hit
        · rw [hlow] at hit
          cases hit
        · rw [hhigh] at hit
          cases hit
      | succ i => exact ⟨i, Nat.lt_of_succ_lt_succ hi, by rwa [Nat.add_assoc, Nat.add_comm 1]⟩

theorem hits_seventeen (h : IsLegal m e) (hm : m ≠ 0) (hden : den ≠ 0)
    (hvalue : (num / den : ℚ) = m * 2 ^ e) : Hits m e num den (Decimal.pointPosition num den) 17 := by
  have hnum : num ≠ 0 := by
    rintro rfl
    have hpos : (0 : ℚ) < m * 2 ^ e :=
      mul_pos (by exact_mod_cast Nat.pos_of_ne_zero hm) (two_zpow_pos e)
    rw [← hvalue, Nat.cast_zero, zero_div] at hpos
    exact lt_irrefl _ hpos
  obtain ⟨hlow, -⟩ := Decimal.pointPosition_spec hnum hden
  rw [Hits]
  generalize hg : Decimal.pointPosition num den - (17 : Nat) = g
  obtain ⟨hscaledPos, hscaled⟩ := Decimal.scaled_ratio num (Nat.pos_of_ne_zero hden) g
  have hpos : (0 : ℚ) < (Decimal.scaled num den g).2 := by exact_mod_cast hscaledPos
  have hgrid := Decimal.ten_zpow_pos g
  rw [hvalue] at hscaled hlow
  have hfloor : ((Decimal.scaled num den g).1 / (Decimal.scaled num den g).2 : Nat) * (10 : ℚ) ^ g ≤ m * 2 ^ e := by
    rw [← le_div_iff₀ hgrid, ← hscaled]
    exact Nat.cast_div_le
  have hceil : (m * 2 ^ e : ℚ)
      < ((Decimal.scaled num den g).1 / (Decimal.scaled num den g).2 + 1 : Nat) * 10 ^ g := by
    rw [← div_lt_iff₀ hgrid, ← hscaled, div_lt_iff₀ hpos]
    rw [mul_comm]
    exact_mod_cast Nat.lt_mul_div_succ _ hscaledPos
  have hclose : (10 : ℚ) ^ (g + 16) ≤ m * 2 ^ e := by
    have heq : g + 16 = Decimal.pointPosition num den - 1 := by omega
    rwa [heq]
  exact (roundsTo_neighbour h hfloor hceil hclose).imp (readsBack_iff hm _ _ _).mpr
    (readsBack_iff hm _ _ _).mpr

end Search

theorem trimmed_quantity (fuel : Nat) (d : Decimal) : (Decimal.trimmed fuel d).quantity = d.quantity := by
  induction fuel generalizing d with
  | zero => rfl
  | succ fuel ih =>
    rw [Decimal.trimmed]
    split
    · next hzero =>
      obtain ⟨q, hq⟩ := Nat.dvd_of_mod_eq_zero hzero.2
      rw [ih, Decimal.quantity, Decimal.quantity, zpow_add_one₀ (by norm_num), hq,
        Nat.mul_div_cancel_left q (by decide)]
      push_cast
      ring
    · rfl

/-- The shortest digits of a number round to it. -/
theorem shortest_roundsTo (h : IsLegal m e) (hm : m ≠ 0) : RoundsTo m e (shortest m e).quantity := by
  obtain ⟨hpos, hratio⟩ := scaled_ratio m Nat.one_pos (-e)
  have hvalue : ((scaled m 1 (-e)).1 : ℚ) / (scaled m 1 (-e)).2 = m * 2 ^ e := by
    rw [hratio, zpow_neg, Nat.cast_one, div_one, div_inv_eq_mul]
  rw [shortest, trimmed_quantity]
  exact searchGrids_spec hm ⟨16, by decide, hits_seventeen h hm hpos.ne' hvalue⟩

end Double
end Subgraph
