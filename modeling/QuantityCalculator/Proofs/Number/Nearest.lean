import QuantityCalculator.Number.Decimal
import QuantityCalculator.Proofs.Number.Neutral

/-!
The double nearest to a quotient that some double is equal to. Main statement: the decimal equal to
a double has that double as its nearest one.
-/

namespace QuantityCalculator.Double

variable {num den m : Nat} {e p : Int}

lemma raise_pos {base : Nat} (hb : 0 < base) (e : Int) : 0 < raise base e :=
  Nat.pow_pos hb

lemma raise_div_raise (e : Int) : (raise 2 e / raise 2 (-e) : ℚ) = 2 ^ e := by
  rcases Int.le_total 0 e with h | h
  · obtain ⟨n, rfl⟩ := Int.eq_ofNat_of_zero_le h
    simp [raise]
  · obtain ⟨n, hn⟩ := Int.eq_ofNat_of_zero_le (Int.neg_nonneg_of_nonpos h)
    obtain rfl : e = -n := by omega
    simp [raise]

lemma scale_div (num den : Nat) (e : Int) :
    ((scale num den e).1 / (scale num den e).2 : ℚ) = num / den / 2 ^ e := by
  have hp : (raise 2 e : ℚ) ≠ 0 := Nat.cast_ne_zero.mpr (raise_pos (by decide) e).ne'
  have hn : (raise 2 (-e) : ℚ) ≠ 0 := Nat.cast_ne_zero.mpr (raise_pos (by decide) _).ne'
  rw [← raise_div_raise, scale]
  push_cast
  field_simp

lemma scale_le_iff (hd : 0 < den) :
    (scale num den e).2 ≤ (scale num den e).1 ↔ (2 : ℚ) ^ e ≤ num / den := by
  have hs : (0 : ℚ) < (scale num den e).2 :=
    Nat.cast_pos.mpr (Nat.mul_pos hd (raise_pos (by decide) e))
  rw [← Nat.cast_le (α := ℚ), ← one_le_div₀ hs, scale_div, one_le_div₀ (by positivity)]

lemma log2_bounds (h : 0 < m) : (2 : ℚ) ^ (m.log2 : ℤ) ≤ m ∧ (m : ℚ) < 2 ^ (m.log2 + 1 : ℤ) := by
  obtain ⟨hl, hu⟩ := (Nat.log2_eq_iff h.ne').mp rfl
  exact ⟨by exact_mod_cast hl, by exact_mod_cast hu⟩

lemma leadingPower_eq (hn : 0 < num) (hd : 0 < den) (hl : (2 : ℚ) ^ p ≤ num / den)
    (hu : (num / den : ℚ) < 2 ^ (p + 1)) : leadingPower num den = p := by
  have h2 : (1 : ℚ) < 2 := by norm_num
  have hd' : (0 : ℚ) < den := Nat.cast_pos.mpr hd
  obtain ⟨hnl, hnu⟩ := log2_bounds hn
  obtain ⟨hdl, hdu⟩ := log2_bounds hd
  have hlow : (2 : ℚ) ^ ((num.log2 : ℤ) - (den.log2 + 1)) < num / den := by
    rw [zpow_sub₀ (by norm_num)]
    exact div_lt_div₀' hnl hdu (Nat.cast_pos.mpr hn) hd'
  have hhigh : (num / den : ℚ) < 2 ^ ((num.log2 : ℤ) + 1 - den.log2) := by
    rw [zpow_sub₀ (by norm_num)]
    exact div_lt_div₀ hnu hdl (by positivity) (by positivity)
  have h₁ := (zpow_lt_zpow_iff_right₀ h2).mp (hl.trans_lt hhigh)
  have h₂ := (zpow_lt_zpow_iff_right₀ h2).mp (hlow.trans hu)
  have ht := @scale_le_iff num den (num.log2 - den.log2) hd
  simp only [leadingPower, ht]
  split
  · next h =>
    have h₃ := (zpow_lt_zpow_iff_right₀ h2).mp (h.trans_lt hu)
    omega
  · next h =>
    have h₃ := (zpow_lt_zpow_iff_right₀ h2).mp (hl.trans_lt (not_le.mp h))
    omega

lemma roundEven_mul (m : Nat) (hd : 0 < den) : roundEven (m * den) den = m := by
  simp [roundEven, hd]

lemma Canonical.exponent (h : Canonical m e) (hm : 0 < m) :
    max ((m.log2 : Int) + e - 52) (-1074) = e := by
  have ht := h.target hm
  rw [targetExponent_eq, Float.Model.totalExponent] at ht
  omega

lemma Canonical.nearest (h : Canonical m e) (hm : 0 < m) (hd : 0 < den)
    (he : num * raise 2 (-e) = m * (den * raise 2 e))
    (hi : (e + 1074).toNat * binade + m ≤ infinity) :
    Double.nearest num den = (e + 1074).toNat * binade + m := by
  have hp : 0 < den * raise 2 e := Nat.mul_pos hd (raise_pos (by decide) e)
  have hn : 0 < num := Nat.pos_of_mul_pos_right (he ▸ Nat.mul_pos hm hp)
  have hs : scale num den e = (m * (den * raise 2 e), den * raise 2 e) := by rw [scale, he]
  have hq : (num / den : ℚ) = m * 2 ^ e := by
    have h := scale_div num den e
    rw [hs, Nat.cast_mul, mul_div_cancel_right₀ _ (Nat.cast_ne_zero.mpr hp.ne')] at h
    exact ((eq_div_iff (by positivity)).mp h).symm
  have hl : leadingPower num den = m.log2 + e := by
    obtain ⟨hl, hu⟩ := log2_bounds hm
    apply leadingPower_eq hn hd
    · rw [hq, zpow_add₀ (by norm_num)]
      exact mul_le_mul_of_nonneg_right hl (by positivity)
    · rw [hq, add_right_comm, zpow_add₀ (by norm_num)]
      exact mul_lt_mul_of_pos_right hu (by positivity)
  simp only [Double.nearest, if_neg hn.ne', hl, h.exponent hm, hs, roundEven_mul m hp]
  exact min_eq_right hi

end QuantityCalculator.Double

namespace QuantityCalculator.Decimal

open Double

lemma nearest_ofBinary {m b : Nat} {e : Int} (hc : Canonical m e) (hi : b < infinity)
    (hb : b = (e + 1074).toNat * binade + m) : (ofBinary m e).nearest = b := by
  have hz : raise 10 (min e 0) = 1 := by
    have h : (min e 0).toNat = 0 := by omega
    rw [raise, h]
  have hn : raise 10 (-min e 0) = raise 2 (-e) * raise 5 (-e) := by
    have h : (-min e 0).toNat = (-e).toNat := by omega
    rw [raise, h]
    exact Nat.mul_pow 2 5 _
  rcases Nat.eq_zero_or_pos m with rfl | hm
  · have he : e = -1074 := by
      rcases hc with ⟨-, he⟩ | ⟨hl, -⟩
      · exact he
      · exact absurd hl (by decide)
    simp [Decimal.nearest, ofBinary, Double.nearest, hb, he]
  · rw [hb] at hi ⊢
    rw [Decimal.nearest, ofBinary]
    apply hc.nearest hm (raise_pos (by decide) _) _ (Nat.le_of_lt hi)
    rw [hz, hn]
    ring

end QuantityCalculator.Decimal
