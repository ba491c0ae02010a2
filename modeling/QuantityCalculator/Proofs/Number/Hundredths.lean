import QuantityCalculator.Number.Rounding
import QuantityCalculator.Proofs.Number.Comparison
import QuantityCalculator.Proofs.Number.Rounded
import QuantityCalculator.Proofs.Number.Written

/-!
Rounding to two places. Main statement: it keeps integers apart whose hundredfold is below `2 ^ 59`.
-/

namespace QuantityCalculator.Double

variable {x y : Float} {s t : Bool} {l k l' k' : Int} {v w c : ℚ} {n m N M : Nat}

namespace Rounds

lemma place_le (h : Rounds l v c) (hv : v < 2 ^ (53 + k)) : l ≤ k := by
  have hp := (zpow_lt_zpow_iff_right₀ (by norm_num)).mp (h.lower.trans_lt hv)
  omega

lemma error_le (h : Rounds l v c) (hl : l ≤ k) : |c - v| ≤ 2 ^ k / 2 := by
  have hp : (2 : ℚ) ^ l ≤ 2 ^ k := zpow_le_zpow_right₀ (by norm_num) hl
  linarith [h.near]

lemma multiple_of_le (h : Rounds l v c) (hk : k ≤ l) : ∃ r : Nat, c = r * 2 ^ k := by
  obtain ⟨r, hr⟩ := h.multiple
  obtain ⟨j, hj⟩ := Int.eq_ofNat_of_zero_le (Int.sub_nonneg_of_le hk)
  obtain rfl : l = k + j := by omega
  refine ⟨r * 2 ^ j, ?_⟩
  rw [hr, zpow_add₀ (by norm_num), zpow_natCast]
  push_cast
  ring

end Rounds

lemma eq_of_hundreds (h : |(100 * n : ℚ) - 100 * m| < 100) : n = m := by
  obtain ⟨hl, hu⟩ := abs_lt.mp h
  have hl' : (100 * m : ℚ) < 100 * n + 100 := by linarith
  have hu' : (100 * n : ℚ) < 100 * m + 100 := by linarith
  have h₁ : 100 * m < 100 * n + 100 := by exact_mod_cast hl'
  have h₂ : 100 * n < 100 * m + 100 := by exact_mod_cast hu'
  omega

section Apart

variable (hn : Rounds l (100 * n) N) (hN : Rounds l' (N / 100) c) (hn' : (100 * n : ℚ) < 2 ^ 59)
  (hm : Rounds k (100 * m) M) (hM : Rounds k' (M / 100) c) (hm' : (100 * m : ℚ) < 2 ^ 59)

include hn hn'

lemma product_error : |(N : ℚ) - 100 * n| ≤ 32 := by
  have h := hn.error_le (k := 6) (hn.place_le (by exact_mod_cast hn'))
  norm_num at h
  exact h

include hN

lemma quotient_place : l' ≤ 0 := by
  have h := abs_le.mp (product_error hn hn')
  refine hN.place_le ?_
  norm_num at hn' ⊢
  linarith

/-- A quotient that is an integer is the number itself. -/
lemma eq_of_integer {r : Nat} (hr : c = r) : n = r := by
  have h := abs_le.mp (product_error hn hn')
  have h' := hN.error_le (quotient_place hn hN hn')
  rw [hr, abs_le] at h'
  norm_num at h'
  refine eq_of_hundreds (abs_lt.mpr ⟨?_, ?_⟩) <;> linarith

include hm hM hm'

omit hn' in
lemma eq_of_small_place (hl : l ≤ 4) (hl' : l' ≤ -1) (hk' : k' ≤ -1) : n = m := by
  have h₁ := abs_le.mp (hn.error_le hl)
  have h₂ := abs_le.mp (product_error hm hm')
  have hu : (100 * n : ℚ) < 2 ^ (57 : Int) :=
    hn.upper.trans_le (zpow_le_zpow_right₀ (by norm_num) (by omega))
  have hN' := abs_le.mp (hN.error_le hl')
  have hM' := abs_le.mp (hM.error_le hk')
  norm_num at h₁ hu hN' hM'
  have hl'' : l' ≤ -2 := hN.place_le (by norm_num; linarith)
  have hk'' : k' ≤ -2 := hM.place_le (by norm_num; linarith)
  have hN' := abs_le.mp (hN.error_le hl'')
  have hM' := abs_le.mp (hM.error_le hk'')
  norm_num at hN' hM'
  refine eq_of_hundreds (abs_lt.mpr ⟨?_, ?_⟩) <;> linarith

lemma eq_of_large_place (hl : 5 ≤ l) (hk : 5 ≤ k) (hl' : l' ≤ -1) (hk' : k' ≤ -1) : n = m := by
  have h₁ := abs_le.mp (product_error hn hn')
  have h₂ := abs_le.mp (product_error hm hm')
  have hN' := abs_le.mp (hN.error_le hl')
  have hM' := abs_le.mp (hM.error_le hk')
  obtain ⟨a, ha⟩ := hn.multiple_of_le hl
  obtain ⟨b, hb⟩ := hm.multiple_of_le hk
  norm_num at hN' hM' ha hb
  -- The two products are multiples of 32, and less than 64 apart.
  have hab : (a : ℚ) < b + 2 := by linarith
  have hba : (b : ℚ) < a + 2 := by linarith
  have hab : (a : ℚ) ≤ b + 1 := by exact_mod_cast Nat.lt_succ_iff.mp (by exact_mod_cast hab)
  have hba : (b : ℚ) ≤ a + 1 := by exact_mod_cast Nat.lt_succ_iff.mp (by exact_mod_cast hba)
  refine eq_of_hundreds (abs_lt.mpr ⟨?_, ?_⟩) <;> linarith

/-- Two integers with the same hundredths are the same. -/
lemma eq_of_hundredths : n = m := by
  by_cases hz : 0 ≤ l' ∨ 0 ≤ k'
  · obtain ⟨r, hr⟩ : ∃ r : Nat, c = r := by
      obtain hz | hz := hz
      · simpa using hN.multiple_of_le hz
      · simpa using hM.multiple_of_le hz
    exact (eq_of_integer hn hN hn' hr).trans (eq_of_integer hm hM hm' hr).symm
  · have hl' : l' ≤ -1 := by omega
    have hk' : k' ≤ -1 := by omega
    by_cases hl : l ≤ 4
    · exact eq_of_small_place hn hN hm hM hm' hl hl' hk'
    · by_cases hk : k ≤ 4
      · exact (eq_of_small_place hm hM hn hN hn' hk hk' hl').symm
      · exact eq_of_large_place hn hN hn' hm hM hm' (by omega) (by omega) hl' hk'

end Apart

lemma Reads.eq_signed (hx : Reads x s n) (hn : 0 < n) : x = signed s (nearest n 1) := by
  obtain ⟨m, e, hm, hf, hv⟩ := hx.finite (Nat.cast_pos.mpr hn)
  obtain ⟨hc, b, hb, rfl, rfl⟩ := signed_of_finite hf
  have he : n * raise 2 (-e) = m * (1 * raise 2 e) := by
    have hp : (raise 2 (-e) : ℚ) ≠ 0 := Nat.cast_ne_zero.mpr (raise_pos (by decide) _).ne'
    have hq : (n : ℚ) * raise 2 (-e) = m * raise 2 e := by
      rw [hv, ← raise_div_raise]
      field_simp
    rw [Nat.one_mul]
    exact_mod_cast hq
  rw [hc.nearest hm Nat.one_pos he hb.le]

lemma Reads.roundAway_eq (hx : Reads x s n) (hn : 0 < n) : roundAway x = x := by
  have hs := hx.eq_signed hn
  obtain ⟨m, e, hm, hf, hv⟩ := hx.finite (Nat.cast_pos.mpr hn)
  rw [roundAway, hf]
  dsimp only
  split
  · rfl
  · next he =>
    have hu := raise_pos (by decide : 0 < 2) (-e)
    have hz : raise 2 e = 1 := by
      have h : e.toNat = 0 := by omega
      rw [raise, h]
    have hm : m = raise 2 (-e) * n := by
      have hr := raise_div_raise e
      rw [← hr, hz] at hv
      have hp : (raise 2 (-e) : ℚ) ≠ 0 := Nat.cast_ne_zero.mpr hu.ne'
      have hq : (m : ℚ) = raise 2 (-e) * n := by
        rw [hv, Nat.cast_one]
        field_simp
      exact_mod_cast hq
    have hd : (2 * m + raise 2 (-e)) / (2 * raise 2 (-e)) = n := by
      rw [hm, ← Nat.mul_assoc, Nat.add_comm, Nat.add_mul_div_left _ _ (by omega),
        Nat.div_eq_of_lt (by omega), Nat.zero_add]
    rw [hd, ← hs]

lemma exists_place {v : ℚ} (hl : 2 ^ (-7 : Int) ≤ v) (hu : v < 2 ^ (60 : Int)) :
    ∃ l : Int, 2 ^ (52 + l) ≤ v ∧ v < 2 ^ (53 + l) ∧ -1074 ≤ l ∧ l ≤ 969 := by
  have h2 : (1 : ℚ) < 2 := one_lt_two
  have hp : (0 : ℚ) < 2 ^ (-7 : Int) := by positivity
  obtain ⟨p, hp, hp'⟩ := exists_mem_Ico_zpow (hp.trans_le hl) h2
  have h₁ := (zpow_lt_zpow_iff_right₀ h2).mp (hl.trans_lt hp')
  have h₂ := (zpow_lt_zpow_iff_right₀ h2).mp (hp.trans_lt hu)
  have h₃ : 52 + (p - 52) = p := by omega
  have h₄ : 53 + (p - 52) = p + 1 := by omega
  refine ⟨p - 52, ?_, ?_, by omega, by omega⟩
  · rwa [h₃]
  · rwa [h₄]

lemma Reads.not_isZero (hx : Reads x s v) (hv : 0 < v) : ¬ IsZero x := by
  obtain ⟨m, e, hm, hf, -⟩ := hx.unpack hv
  rintro ⟨t, ht⟩
  rw [hf] at ht
  contradiction

lemma Rounds.pos (h : Rounds l v c) : 0 < c := by
  have hp : (0 : ℚ) < 2 ^ l := by positivity
  have hl := h.lower
  rw [zpow_add₀ (by norm_num)] at hl
  have hn := abs_le.mp h.near
  norm_num at hl
  linarith

/-- What an integer is rounded to is an integer. -/
lemma Rounds.natural (h : Rounds l n c) : ∃ N : Nat, c = N := by
  obtain ⟨r, hr⟩ := h.multiple
  obtain hl | hl := Int.le_total 0 l
  · simpa using h.multiple_of_le hl
  · -- It is a multiple of the last place itself.
    obtain ⟨j, rfl⟩ : ∃ j : Nat, l = -j := ⟨l.natAbs, by omega⟩
    have hj : (0 : ℚ) < 2 ^ j := by positivity
    have hi : (0 : ℚ) < (2 ^ j)⁻¹ := inv_pos.mpr hj
    have hd : (r * (2 ^ j)⁻¹ - n : ℚ) = (r - n * 2 ^ j) * (2 ^ j)⁻¹ := by field_simp
    have hn := h.near
    rw [hr, zpow_neg, zpow_natCast, hd, abs_mul, abs_of_pos hi, div_eq_inv_mul] at hn
    obtain ⟨hl, hu⟩ := abs_le.mp (le_of_mul_le_mul_right hn hi)
    have h₁ : (r : ℚ) < n * 2 ^ j + 1 := by linarith
    have h₂ : (n * 2 ^ j : ℚ) < r + 1 := by linarith
    have he : r = n * 2 ^ j :=
      Nat.le_antisymm (Nat.lt_succ_iff.mp (by exact_mod_cast h₁))
        (Nat.lt_succ_iff.mp (by exact_mod_cast h₂))
    refine ⟨n, ?_⟩
    rw [hr, he, zpow_neg, zpow_natCast]
    push_cast
    field_simp

lemma Reads.reads_hundredths (hx : Reads x s n) (hn : 0 < n) (hn' : 100 * n < 2 ^ 59) :
    ∃ l l' c, ∃ N : Nat, Rounds l (100 * n) N ∧ Rounds l' (N / 100) c ∧
      Reads (hundredths x) s c := by
  have hn : (1 : ℚ) ≤ n := Nat.one_le_cast.mpr hn
  have hn' : (100 * n : ℚ) < 2 ^ 59 := by exact_mod_cast hn'
  obtain ⟨l, hl, hu, hmin, hmax⟩ := exists_place (v := 100 * n) (by norm_num; linarith)
    (by norm_num at hn' ⊢; linarith)
  obtain ⟨c, hy, hr⟩ := hx.mul_hundred hl hu hmin hmax
  obtain ⟨N, rfl⟩ : ∃ N : Nat, c = N := by
    refine Rounds.natural (n := 100 * n) (l := l) ?_
    exact_mod_cast hr
  have hN := hr.pos
  have hN' : (1 : ℚ) ≤ N := Nat.one_le_cast.mpr (Nat.cast_pos.mp hN)
  have he := abs_le.mp (product_error hr hn')
  obtain ⟨l', hl', hu', hmin', hmax'⟩ := exists_place (v := N / 100) (by norm_num; linarith)
    (by norm_num at hn' ⊢; linarith)
  obtain ⟨c, hz, hr'⟩ := hy.div_hundred hl' hu' hmin' hmax'
  refine ⟨l, l', c, N, hr, hr', ?_⟩
  rw [hundredths, hy.roundAway_eq (Nat.cast_pos.mp hN)]
  rwa [if_neg (fun h => hz.not_isZero hr'.pos (beq_zero_iff.mp h))]

/-- The integer with a sign and a magnitude. -/
def withSign (s : Bool) (n : Nat) : Int :=
  if s then -n else n

lemma natAbs_withSign (s : Bool) (n : Nat) : (withSign s n).natAbs = n := by
  cases s <;> simp [withSign]

lemma decide_withSign (s : Bool) (hn : 0 < n) : decide (withSign s n < 0) = s := by
  cases s
  · simp [withSign]
  · simpa [withSign] using hn

lemma reads_of_integer? (h : integer? x = some k) : ∃ s n, Reads x s (n : Nat) ∧ k = withSign s n := by
  rw [integer?] at h
  split at h
  · next s m e hf =>
    dsimp only at h
    split at h
    · next hd =>
      refine ⟨s, m * raise 2 e / raise 2 (-e), ⟨m, e, hf, ?_⟩, (Option.some.inj h).symm⟩
      have hu : (raise 2 (-e) : ℚ) ≠ 0 := Nat.cast_ne_zero.mpr (raise_pos (by decide) _).ne'
      rw [Nat.cast_div (Dvd.dvd.mul_right (Nat.dvd_of_mod_eq_zero hd) _) hu, ← raise_div_raise]
      push_cast
      ring
    · contradiction
  · contradiction

lemma Reads.read_integer (hx : Reads x s n) (hn : 0 < n) :
    Numeral.read (Numeral.integer (withSign s n)) = some x := by
  rw [Numeral.read_integer, decide_withSign s hn, natAbs_withSign, ← hx.eq_signed hn]

lemma clamp_eq (h : k.natAbs < 2 ^ 63) : clamp k = k := by
  have hl : Int64.minValue.toInt = -2 ^ 63 := by decide
  have hu : Int64.maxValue.toInt = 2 ^ 63 - 1 := by decide
  rw [clamp, hl, hu]
  omega

lemma Reads.congr {v w : ℚ} (h : Reads x s v) (h' : Reads x t w) : s = t ∧ v = w := by
  obtain ⟨m, e, hf, rfl⟩ := h
  obtain ⟨m', e', hf', rfl⟩ := h'
  cases hf.symm.trans hf'
  exact ⟨rfl, rfl⟩

lemma Reads.isZero (h : Reads x s 0) : IsZero x := by
  obtain ⟨m, e, hf, hv⟩ := h
  have hm : m = 0 := by
    have hp : (2 ^ e : ℚ) ≠ 0 := by positivity
    exact_mod_cast (mul_eq_zero.mp hv.symm).resolve_right hp
  refine ⟨sign s, ?_⟩
  rw [unpack_toModel, hf, unpacked, dif_pos hm]

lemma Reads.isFinite {v : ℚ} (h : Reads x s v) : x.isFinite := by
  obtain ⟨m, e, hf, -⟩ := h
  exact isFinite_iff.mpr ⟨s, m, e, hf⟩

end QuantityCalculator.Double
