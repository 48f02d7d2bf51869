import Mathlib.Algebra.Order.Field.Power
import Mathlib.Data.Rat.Cast.Order
import Mathlib.Tactic.FieldSimp
import Mathlib.Tactic.Linarith
import Mathlib.Tactic.NormNum
import Mathlib.Tactic.Positivity
import Mathlib.Tactic.Ring
import Subgraph.Decimal.Shortest

/-!
# Rounding to binary numbers

The rational numbers that round to a binary number lie in an interval around it. Whatever quotient stands
for such a rational number is rounded to that binary number.
-/

namespace Subgraph

/-- A ratio is divided by a power if that stands below the line or, with its sign changed, above it. -/
theorem scaled_ratio {b : Nat} (hb : 0 < b) (num : Nat) {den : Nat} (hden : 0 < den) (e : Int)
    {p : Nat × Nat} (hp : p = if 0 ≤ e then (num, den * Nat.pow b e.toNat)
      else (num * Nat.pow b (-e).toNat, den)) :
    0 < p.2 ∧ (p.1 : ℚ) / p.2 = num / den / b ^ e := by
  subst hp
  split
  · next he =>
    obtain ⟨k, rfl⟩ := Int.eq_ofNat_of_zero_le he
    refine ⟨Nat.mul_pos hden (Nat.pow_pos hb), ?_⟩
    simp only [Int.toNat_natCast, Nat.pow_eq, zpow_natCast]
    push_cast
    rw [div_div]
  · next he =>
    obtain ⟨k, hk⟩ := Int.eq_ofNat_of_zero_le (show 0 ≤ -e by omega)
    obtain rfl : e = -(k : Int) := by omega
    refine ⟨hden, ?_⟩
    simp only [neg_neg, Int.toNat_natCast, Nat.pow_eq, zpow_neg, zpow_natCast]
    push_cast
    field_simp

theorem Double.scaled_ratio (num : Nat) {den : Nat} (hden : 0 < den) (e : Int) :
    0 < (Double.scaled num den e).2
      ∧ ((Double.scaled num den e).1 : ℚ) / (Double.scaled num den e).2 = num / den / 2 ^ e := by
  exact_mod_cast Subgraph.scaled_ratio Nat.two_pos num hden e rfl

theorem Decimal.scaled_ratio (num : Nat) {den : Nat} (hden : 0 < den) (e : Int) :
    0 < (Decimal.scaled num den e).2
      ∧ ((Decimal.scaled num den e).1 : ℚ) / (Decimal.scaled num den e).2 = num / den / 10 ^ e := by
  exact_mod_cast Subgraph.scaled_ratio (b := 10) (by decide) num hden e rfl

end Subgraph

namespace Subgraph.Double

theorem two_zpow_pos (e : Int) : (0 : ℚ) < 2 ^ e := zpow_pos (by norm_num) e

/-- The significands and exponents of finite numbers. -/
structure IsLegal (m : Nat) (e : Int) : Prop where
  width : m < 2 * hiddenBit
  least : leastExponent ≤ e
  greatest : e ≤ greatestExponent
  normal : hiddenBit ≤ m ∨ e = leastExponent

/-- How far below a significand the numbers that round to it go: the numbers below a power of two lie
twice as close. -/
def gapBelow (m : Nat) (e : Int) : ℚ := if m = hiddenBit ∧ leastExponent < e then 1 / 4 else 1 / 2

/-- The rational number rounds to `m · 2^e`; halves go to even significands. -/
def RoundsTo (m : Nat) (e : Int) (x : ℚ) : Prop :=
  (m - gapBelow m e < x / 2 ^ e ∧ x / 2 ^ e < m + 1 / 2)
    ∨ m % 2 = 0 ∧ (x / 2 ^ e = m - gapBelow m e ∨ x / 2 ^ e = m + 1 / 2)

theorem gapBelow_pos (m : Nat) (e : Int) : 0 < gapBelow m e := by
  unfold gapBelow
  split <;> norm_num

theorem gapBelow_le (m : Nat) (e : Int) : gapBelow m e ≤ 1 / 2 := by
  unfold gapBelow
  split <;> norm_num

theorem RoundsTo.lower {m : Nat} {e : Int} {x : ℚ} (h : RoundsTo m e x) :
    m - gapBelow m e ≤ x / 2 ^ e := by
  have hgap := gapBelow_le m e
  have hpos := gapBelow_pos m e
  rcases h with h | ⟨-, h | h⟩
  · exact h.1.le
  · exact h.ge
  · linarith

theorem RoundsTo.upper {m : Nat} {e : Int} {x : ℚ} (h : RoundsTo m e x) :
    x / 2 ^ e ≤ m + 1 / 2 := by
  have hpos := gapBelow_pos m e
  rcases h with h | ⟨-, h | h⟩
  · exact h.2.le
  · linarith
  · exact h.le

theorem mul_lt_iff {p q u v : Nat} (hq : 0 < q) (hv : 0 < v) (low : Nat) :
    low * (q * u) < p * v ↔ (low : ℚ) * (u / v) < p / q := by
  have hq' : (0 : ℚ) < q := by exact_mod_cast hq
  have hv' : (0 : ℚ) < v := by exact_mod_cast hv
  rw [← mul_div_assoc, div_lt_div_iff₀ hv' hq', ← Nat.cast_lt (α := ℚ)]
  push_cast
  rw [mul_assoc, mul_comm (u : ℚ)]

theorem lt_mul_iff {p q u v : Nat} (hq : 0 < q) (hv : 0 < v) (high : Nat) :
    p * v < high * (q * u) ↔ (p / q : ℚ) < high * (u / v) := by
  have hq' : (0 : ℚ) < q := by exact_mod_cast hq
  have hv' : (0 : ℚ) < v := by exact_mod_cast hv
  rw [← mul_div_assoc, div_lt_div_iff₀ hq' hv', ← Nat.cast_lt (α := ℚ)]
  push_cast
  rw [mul_assoc, mul_comm (u : ℚ)]

theorem eq_mul_iff {p q u v : Nat} (hq : 0 < q) (hv : 0 < v) (k : Nat) :
    p * v = k * (q * u) ↔ (p / q : ℚ) = k * (u / v) := by
  have hq' : (q : ℚ) ≠ 0 := by exact_mod_cast hq.ne'
  have hv' : (v : ℚ) ≠ 0 := by exact_mod_cast hv.ne'
  rw [← mul_div_assoc, div_eq_div_iff hq' hv', ← Nat.cast_inj (R := ℚ)]
  push_cast
  rw [mul_assoc, mul_comm (u : ℚ)]

/-- A decimal is found to read back where it rounds to the number. -/
theorem readsBack_iff {m : Nat} (hm : m ≠ 0) (e : Int) (c : Nat) (g : Int) :
    readsBack m e c g = true ↔ RoundsTo m e (c * 10 ^ g) := by
  obtain ⟨hpoint, hpointRatio⟩ := Decimal.scaled_ratio (c * 4) Nat.one_pos (-g)
  obtain ⟨hunit, hunitRatio⟩ := scaled_ratio 1 Nat.one_pos (-e)
  have htwo := two_zpow_pos e
  -- Everything is counted in quarters of the unit.
  have hvalue : ((Decimal.scaled (c * 4) 1 (-g)).1 : ℚ) / (Decimal.scaled (c * 4) 1 (-g)).2
      = 4 * (c * 10 ^ g) := by
    rw [hpointRatio, zpow_neg]
    push_cast
    field_simp
  have hscale : ((scaled 1 1 (-e)).1 : ℚ) / (scaled 1 1 (-e)).2 = 2 ^ e := by
    rw [hunitRatio, zpow_neg]
    push_cast
    field_simp
  rw [readsBack, roundingInterval]
  simp only [Bool.or_eq_true, Bool.and_eq_true, decide_eq_true_eq, beq_iff_eq]
  rw [mul_lt_iff hpoint hunit, lt_mul_iff hpoint hunit, eq_mul_iff hpoint hunit, eq_mul_iff hpoint hunit,
    hvalue, hscale]
  have hlow : ((4 * m - (if m = hiddenBit ∧ leastExponent < e then 1 else 2) : Nat) : ℚ)
      = 4 * (m - gapBelow m e) := by
    rw [gapBelow]
    split
    · rw [Nat.cast_sub (by omega)]
      push_cast
      ring
    · rw [Nat.cast_sub (by omega)]
      push_cast
      ring
  have hhigh : ((4 * m + 2 : Nat) : ℚ) = 4 * (m + 1 / 2) := by
    push_cast
    ring
  rw [hlow, hhigh, RoundsTo, lt_div_iff₀ htwo, div_lt_iff₀ htwo, div_eq_iff htwo.ne', div_eq_iff htwo.ne',
    mul_assoc, mul_assoc]
  constructor
  · rintro (⟨h, h'⟩ | ⟨heven, h | h⟩)
    · exact .inl ⟨by linarith, by linarith⟩
    · exact .inr ⟨heven, .inl (by linarith)⟩
    · exact .inr ⟨heven, .inr (by linarith)⟩
  · rintro (⟨h, h'⟩ | ⟨heven, h | h⟩)
    · exact .inl ⟨by linarith, by linarith⟩
    · exact .inr ⟨heven, .inl (by linarith)⟩
    · exact .inr ⟨heven, .inr (by linarith)⟩

section Nearest

theorem roundHalfEven_eq {num den q : Nat} (hden : 0 < den)
    (hlower : (q : ℚ) - 1 / 2 ≤ num / den) (hupper : (num / den : ℚ) ≤ q + 1 / 2)
    (heven : (num / den : ℚ) = q - 1 / 2 ∨ (num / den : ℚ) = q + 1 / 2 → q % 2 = 0) :
    roundHalfEven num den = q := by
  have hpos : (0 : ℚ) < den := by exact_mod_cast hden
  have hsplit : den * (num / den) + num % den = num := Nat.div_add_mod num den
  have hmod : num % den < den := Nat.mod_lt num hden
  have hlower' : (2 * q * den : ℤ) ≤ 2 * num + den := by
    rw [le_div_iff₀ hpos] at hlower
    have : (2 * q * den : ℚ) ≤ 2 * num + den := by linarith
    exact_mod_cast this
  have hupper' : (2 * num : ℤ) ≤ 2 * q * den + den := by
    rw [div_le_iff₀ hpos] at hupper
    have : (2 * num : ℚ) ≤ 2 * q * den + den := by linarith
    exact_mod_cast this
  have heven' : (2 * num + den : ℤ) = 2 * q * den ∨ (2 * num : ℤ) = 2 * q * den + den → q % 2 = 0 := by
    rw [div_eq_iff hpos.ne', div_eq_iff hpos.ne'] at heven
    rintro (h | h)
    · refine heven (.inl ?_)
      have : (2 * num + den : ℚ) = 2 * q * den := by exact_mod_cast h
      linarith
    · refine heven (.inr ?_)
      have : (2 * num : ℚ) = 2 * q * den + den := by exact_mod_cast h
      linarith
  rw [roundHalfEven]
  generalize num / den = k at hsplit ⊢
  generalize num % den = r at hsplit hmod ⊢
  have hsplit' : (num : ℤ) = den * k + r := by exact_mod_cast hsplit.symm
  have hmod' : (r : ℤ) < den := by exact_mod_cast hmod
  rw [hsplit'] at hlower' hupper' heven'
  -- the number is the quotient or the one after it
  have hle : (q : ℤ) ≤ k + 1 := by nlinarith
  have hge : (k : ℤ) ≤ q := by nlinarith
  obtain rfl | rfl : q = k ∨ q = k + 1 := by omega
  · have hhalf : 2 * r ≤ den := by
      have : (2 * r : ℤ) ≤ den := by linarith
      exact_mod_cast this
    by_cases hlt : 2 * r < den
    · simp only [if_pos hlt]
    · have heq : 2 * r = den := by omega
      have htie : q % 2 = 0 := heven' (.inr (by rw [← heq]; push_cast; ring))
      simp only [if_neg hlt, if_neg (show ¬ den < 2 * r by omega), if_pos htie]
  · have hhalf : den ≤ 2 * r := by
      have : (den : ℤ) ≤ 2 * r := by push_cast at hlower'; linarith
      exact_mod_cast this
    by_cases hlt : den < 2 * r
    · simp only [if_neg (show ¬ 2 * r < den by omega), if_pos hlt]
    · have heq : den = 2 * r := by omega
      have htie : (k + 1) % 2 = 0 := heven' (.inl (by rw [heq]; push_cast; ring))
      simp only [if_neg (show ¬ 2 * r < den by omega), if_neg hlt, if_neg (show ¬ k % 2 = 0 by omega)]

theorem hiddenBit_cast : (hiddenBit : ℚ) = 2 ^ (52 : Int) := by
  rw [hiddenBit, Nat.pow_eq]
  norm_num

theorem log2_bounds {n : Nat} (hn : n ≠ 0) :
    (2 : ℚ) ^ (Nat.log2 n : Int) ≤ n ∧ (n : ℚ) < 2 ^ ((Nat.log2 n : Int) + 1) := by
  have hlow := Nat.log2_self_le hn
  have hhigh := @Nat.lt_log2_self n
  constructor
  · rw [zpow_natCast]
    exact_mod_cast hlow
  · rw [← Nat.cast_succ, zpow_natCast]
    exact_mod_cast hhigh

theorem ratio_bounds {num den : Nat} (hnum : num ≠ 0) (hden : den ≠ 0) :
    (2 : ℚ) ^ ((Nat.log2 num : Int) - Nat.log2 den - 1) < num / den
      ∧ (num / den : ℚ) < 2 ^ ((Nat.log2 num : Int) - Nat.log2 den + 1) := by
  obtain ⟨hnumLow, hnumHigh⟩ := log2_bounds hnum
  obtain ⟨hdenLow, hdenHigh⟩ := log2_bounds hden
  have hpos : (0 : ℚ) < den := by exact_mod_cast Nat.pos_of_ne_zero hden
  have htwo : (2 : ℚ) ≠ 0 := by norm_num
  constructor
  · rw [lt_div_iff₀ hpos]
    calc (2 : ℚ) ^ ((Nat.log2 num : Int) - Nat.log2 den - 1) * den
        < 2 ^ ((Nat.log2 num : Int) - Nat.log2 den - 1) * 2 ^ ((Nat.log2 den : Int) + 1) :=
          mul_lt_mul_of_pos_left hdenHigh (two_zpow_pos _)
      _ = 2 ^ (Nat.log2 num : Int) := by
          rw [← zpow_add₀ htwo]
          congr 1
          ring
      _ ≤ num := hnumLow
  · rw [div_lt_iff₀ hpos]
    calc (num : ℚ) < 2 ^ ((Nat.log2 num : Int) + 1) := hnumHigh
      _ = 2 ^ ((Nat.log2 num : Int) - Nat.log2 den + 1) * 2 ^ (Nat.log2 den : Int) := by
          rw [← zpow_add₀ htwo]
          congr 1
          ring
      _ ≤ 2 ^ ((Nat.log2 num : Int) - Nat.log2 den + 1) * den :=
          mul_le_mul_of_nonneg_left hdenLow (two_zpow_pos _).le

/-- The quotient has 53 bits before the point at the fitting exponent, or fewer at the least one. -/
theorem fittingExponent_spec {num den : Nat} (hnum : num ≠ 0) (hden : den ≠ 0) :
    leastExponent ≤ fittingExponent num den
      ∧ (num / den : ℚ) < 2 ^ (fittingExponent num den + 53)
      ∧ (fittingExponent num den = leastExponent
        ∨ (2 : ℚ) ^ (fittingExponent num den + 52) ≤ num / den) := by
  obtain ⟨hlow, hhigh⟩ := ratio_bounds hnum hden
  have hone : (1 : ℚ) < 2 := by norm_num
  have htwo : (2 : ℚ) ≠ 0 := by norm_num
  rw [fittingExponent]
  generalize hguess : (Nat.log2 num : Int) - Nat.log2 den - 52 = guess
  obtain ⟨hscaledPos, hscaled⟩ := scaled_ratio num (Nat.pos_of_ne_zero hden) guess
  have hfloor : (scaled num den guess).1 / (scaled num den guess).2 < hiddenBit
      ↔ (num / den : ℚ) < 2 ^ (guess + 52) := by
    have hpos : (0 : ℚ) < (scaled num den guess).2 := by exact_mod_cast hscaledPos
    rw [Nat.div_lt_iff_lt_mul hscaledPos, ← Nat.cast_lt (α := ℚ), Nat.cast_mul, ← div_lt_iff₀ hpos, hscaled,
      div_lt_iff₀ (two_zpow_pos guess), hiddenBit_cast, ← zpow_add₀ htwo, add_comm]
  -- the exponent before it is raised to the least one
  obtain ⟨f, hf, hflow, hfhigh⟩ : ∃ f,
      (if (scaled num den guess).1 / (scaled num den guess).2 < hiddenBit then guess - 1 else guess) = f
        ∧ (2 : ℚ) ^ (f + 52) ≤ num / den ∧ (num / den : ℚ) < 2 ^ (f + 53) := by
    split
    · next h =>
      refine ⟨guess - 1, rfl, ?_, ?_⟩
      · have heq : guess - 1 + 52 = (Nat.log2 num : Int) - Nat.log2 den - 1 := by omega
        rw [heq]
        exact hlow.le
      · have heq : guess - 1 + 53 = guess + 52 := by ring
        rw [heq]
        exact hfloor.mp h
    · next h =>
      refine ⟨guess, rfl, not_lt.mp fun hlt => h (hfloor.mpr hlt), ?_⟩
      have heq : guess + 53 = (Nat.log2 num : Int) - Nat.log2 den + 1 := by omega
      rw [heq]
      exact hhigh
  simp only [hf]
  refine ⟨le_max_left _ _, ?_, ?_⟩
  · refine hfhigh.trans_le (zpow_le_zpow_right₀ hone.le ?_)
    have := le_max_right leastExponent f
    omega
  · rcases le_total f leastExponent with h | h
    · exact .inl (max_eq_left h)
    · rw [max_eq_right h]
      exact .inr hflow

variable {m : Nat} {e : Int} {num den : Nat}

/-- A quotient fits the exponent of the number that it rounds to, or is just below a power of two. -/
theorem fittingExponent_of_roundsTo (h : IsLegal m e) (hnum : num ≠ 0) (hden : den ≠ 0)
    (hx : RoundsTo m e (num / den)) :
    fittingExponent num den = e
      ∨ fittingExponent num den = e - 1 ∧ m = hiddenBit ∧ leastExponent < e
        ∧ (num / den : ℚ) / 2 ^ e < 2 ^ (52 : Int) := by
  have hone : (1 : ℚ) < 2 := by norm_num
  have htwo : (2 : ℚ) ≠ 0 := by norm_num
  have hpos := two_zpow_pos e
  obtain ⟨hleast, hhigh, hlow⟩ := fittingExponent_spec hnum hden
  generalize fittingExponent num den = f at *
  have hupper := hx.upper
  have hlower := hx.lower
  have hgap := gapBelow_le m e
  have hwidth : (m : ℚ) + 1 ≤ 2 ^ (53 : Int) := by
    have hlt := h.width
    have hcast : (m : ℚ) + 1 ≤ 2 * hiddenBit := by exact_mod_cast hlt
    rw [hiddenBit_cast] at hcast
    norm_num at hcast ⊢
    linarith
  -- A quotient with a greater fitting exponent would be too great to round to `m`.
  have hle : f ≤ e := by
    by_contra hgt
    have hnormal : (2 : ℚ) ^ (f + 52) ≤ num / den :=
      hlow.resolve_left fun heq => by have := h.least; omega
    have hbig : (2 : ℚ) ^ (53 : Int) ≤ (num / den : ℚ) / 2 ^ e := by
      rw [le_div_iff₀ hpos, ← zpow_add₀ htwo]
      exact (zpow_le_zpow_right₀ hone.le (by omega)).trans hnormal
    linarith
  rcases hle.lt_or_eq with hlt | heq
  · refine .inr ?_
    have hleast' : leastExponent < e := by omega
    have hsmall : ∀ k : Int, f + 53 ≤ e + k → (num / den : ℚ) / 2 ^ e < 2 ^ k := by
      intro k hk
      rw [div_lt_iff₀ hpos, ← zpow_add₀ htwo]
      exact hhigh.trans_le (zpow_le_zpow_right₀ hone.le (by omega))
    have hhidden : hiddenBit ≤ m := h.normal.resolve_right fun heq => by omega
    have hbelow := hsmall 52 (by omega)
    -- The quotient is below the hidden bit, and rounds to a number that is not.
    have heqm : m = hiddenBit := by
      by_contra hne
      have hsucc : (hiddenBit : ℚ) + 1 ≤ m := by exact_mod_cast (by omega : hiddenBit + 1 ≤ m)
      rw [hiddenBit_cast] at hsucc
      linarith
    refine ⟨?_, heqm, hleast', hbelow⟩
    by_contra hne
    have hsmaller := hsmall 51 (by omega)
    rw [heqm, hiddenBit_cast] at hlower
    norm_num at hlower hsmaller
    rw [heqm] at hgap
    linarith
  · exact .inl heq

/-- Quotients in the interval of a number are rounded to it. -/
theorem ofRatio_of_roundsTo (h : IsLegal m e) (hnum : num ≠ 0) (hden : den ≠ 0)
    (hx : RoundsTo m e (num / den)) (negative : Bool) : ofRatio negative num den = .finite negative m e := by
  have hcases := fittingExponent_of_roundsTo h hnum hden hx
  obtain ⟨hscaledPos, hscaled⟩ := scaled_ratio num (Nat.pos_of_ne_zero hden) (fittingExponent num den)
  rw [ofRatio, if_neg hnum]
  generalize fittingExponent num den = f at *
  rcases hcases with rfl | ⟨rfl, rfl, hleast, hbelow⟩
  · have hround : roundHalfEven (scaled num den f).1 (scaled num den f).2 = m := by
      refine roundHalfEven_eq hscaledPos ?_ ?_ ?_
      · rw [hscaled]
        linarith [hx.lower, gapBelow_le m f]
      · rw [hscaled]
        exact hx.upper
      · rw [hscaled]
        intro htie
        rcases hx with ⟨hlower, hupper⟩ | ⟨heven, -⟩
        · rcases htie with htie | htie
          · linarith [gapBelow_le m f]
          · linarith
        · exact heven
    have hwidth : m ≠ 2 * hiddenBit := by have := h.width; omega
    simp only [hround, if_neg hwidth, if_neg (show ¬ greatestExponent < f from not_lt.mpr h.greatest)]
  -- Just below a power of two the unit is halved, and rounding goes up to the full width.
  · have hgap : gapBelow hiddenBit e = 1 / 4 := if_pos ⟨rfl, hleast⟩
    have hhalf : (num / den : ℚ) / 2 ^ (e - 1) = 2 * ((num / den : ℚ) / 2 ^ e) := by
      rw [zpow_sub_one₀ (by norm_num)]
      field_simp
    have hlower := hx.lower
    rw [hgap, hiddenBit_cast] at hlower
    have hround : roundHalfEven (scaled num den (e - 1)).1 (scaled num den (e - 1)).2 = 2 * hiddenBit := by
      refine roundHalfEven_eq hscaledPos ?_ ?_ fun _ => by omega
      · rw [hscaled, hhalf]
        push_cast
        rw [hiddenBit_cast]
        linarith
      · rw [hscaled, hhalf]
        push_cast
        rw [hiddenBit_cast]
        linarith
    have hgreatest : ¬ greatestExponent < e := not_lt.mpr h.greatest
    simp only [hround, if_pos, sub_add_cancel, if_neg hgreatest]

theorem roundHalfEven_bounds (num den : Nat) :
    num / den ≤ roundHalfEven num den ∧ roundHalfEven num den ≤ num / den + 1 := by
  rw [roundHalfEven]
  split
  · omega
  split
  · omega
  split <;> omega

theorem legal_ofRatio (hden : den ≠ 0) {negative n : Bool} (h : ofRatio negative num den = .finite n m e) :
    IsLegal m e := by
  simp only [ofRatio] at h
  split at h
  · obtain ⟨-, rfl, rfl⟩ := Double.finite.inj h
    exact ⟨by decide, le_refl _, by decide, .inr rfl⟩
  next hnum =>
  obtain ⟨hleast, hhigh, hlow⟩ := fittingExponent_spec hnum hden
  obtain ⟨hscaledPos, hscaled⟩ := scaled_ratio num (Nat.pos_of_ne_zero hden) (fittingExponent num den)
  have htwo : (2 : ℚ) ≠ 0 := by norm_num
  have hpos : (0 : ℚ) < (scaled num den (fittingExponent num den)).2 := by exact_mod_cast hscaledPos
  obtain ⟨hround, hround'⟩ := roundHalfEven_bounds (scaled num den (fittingExponent num den)).1
    (scaled num den (fittingExponent num den)).2
  generalize fittingExponent num den = f at *
  have hfloorHigh : (scaled num den f).1 / (scaled num den f).2 < 2 * hiddenBit := by
    rw [Nat.div_lt_iff_lt_mul hscaledPos, ← Nat.cast_lt (α := ℚ), Nat.cast_mul, ← div_lt_iff₀ hpos, hscaled,
      div_lt_iff₀ (two_zpow_pos f), Nat.cast_mul, hiddenBit_cast]
    calc (num / den : ℚ) < 2 ^ (f + 53) := hhigh
      _ = (2 : Nat) * 2 ^ (52 : Int) * 2 ^ f := by
          rw [zpow_add₀ htwo, mul_comm]
          norm_num
  have hfloorLow : f = leastExponent ∨ hiddenBit ≤ (scaled num den f).1 / (scaled num den f).2 := by
    refine hlow.imp_right fun hnormal => ?_
    rw [Nat.le_div_iff_mul_le hscaledPos, ← Nat.cast_le (α := ℚ), Nat.cast_mul, ← le_div_iff₀ hpos, hscaled,
      le_div_iff₀ (two_zpow_pos f), hiddenBit_cast, ← zpow_add₀ htwo, add_comm]
    exact hnormal
  generalize (scaled num den f).1 / (scaled num den f).2 = k at *
  generalize roundHalfEven (scaled num den f).1 (scaled num den f).2 = r at *
  -- Rounding up to the full width takes the next exponent.
  by_cases hfull : r = 2 * hiddenBit
  · rw [if_pos hfull] at h
    split at h
    · cases h
    · next hgreatest =>
      obtain ⟨-, rfl, rfl⟩ := Double.finite.inj h
      have hwidth : hiddenBit < 2 * hiddenBit := by decide
      exact ⟨hwidth, hleast.trans (le_add_of_nonneg_right Int.one_nonneg), not_lt.mp hgreatest,
        .inl (le_refl _)⟩
  · rw [if_neg hfull] at h
    split at h
    · cases h
    · next hgreatest =>
      obtain ⟨-, rfl, rfl⟩ := Double.finite.inj h
      exact ⟨by simp only; omega, hleast, not_lt.mp hgreatest,
        hfloorLow.symm.imp_left fun hk => hk.trans hround⟩

end Nearest

end Subgraph.Double
