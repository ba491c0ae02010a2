import QuantityCalculator.Proofs.Number.Nearest

/-!
Products and quotients by one hundred. Main statement: they are the exact ones, but for at most half of
the last place.
-/

namespace QuantityCalculator.Double

open Float.Model Float.Model.UnpackedFloat

/-- What a mantissa and the two bits of what is cut off say of a rational number. -/
def Cut (em : ExtendedMantissa) (q : ℚ) : Prop :=
  match em.roundBit, em.stickyBit with
  | false, false => q = em.mantissa
  | false, true => em.mantissa < q ∧ q < em.mantissa + 1 / 2
  | true, false => q = em.mantissa + 1 / 2
  | true, true => em.mantissa + 1 / 2 < q ∧ q < em.mantissa + 1

variable {em : ExtendedMantissa} {q : ℚ} {m : Nat} {e p : Int} {a : Accuracy} {t : Sign}

lemma Cut.bounds (h : Cut em q) : em.mantissa ≤ q ∧ q < em.mantissa + 1 := by
  obtain ⟨m, r, s⟩ := em
  cases r <;> cases s <;> simp only [Cut] at h ⊢ <;> constructor <;> linarith

lemma Cut.shiftRightOne (h : Cut em q) : Cut em.shiftRightOne (q / 2) := by
  obtain ⟨m, r, s⟩ := em
  have hm : ((m / 2 : Nat) : ℚ) * 2 + (m % 2 : Nat) = m := by exact_mod_cast Nat.div_add_mod' m 2
  have ho := Nat.mod_two_eq_zero_or_one m
  rw [ExtendedMantissa.shiftRightOne]
  generalize m / 2 = k at hm
  generalize m % 2 = o at hm ho
  obtain rfl | rfl := ho <;> push_cast at hm <;> cases r <;> cases s <;> simp [Cut] at h ⊢ <;>
    first | linarith | (constructor <;> linarith)

lemma Cut.shift (h : Cut em q) (k : Nat) : Cut (em >>> k) (q / 2 ^ k) := by
  induction k with
  | zero => rwa [pow_zero, div_one]
  | succ k ih =>
    rw [pow_succ, ← div_div]
    exact ih.shiftRightOne

lemma roundedMantissa_bounds (em : ExtendedMantissa) :
    em.mantissa ≤ em.roundedMantissa ∧ em.roundedMantissa ≤ em.mantissa + 1 := by
  obtain ⟨m, r, s⟩ := em
  cases r <;> cases s <;> simp [ExtendedMantissa.roundedMantissa, ExtendedMantissa.accuracy,
    Accuracy.roundToNearestEven]
  omega

lemma Cut.rounded (h : Cut em q) : |(em.roundedMantissa : ℚ) - q| ≤ 1 / 2 := by
  obtain ⟨m, r, s⟩ := em
  have ho := Nat.mod_two_eq_zero_or_one m
  rw [abs_le]
  cases r <;> cases s <;> simp only [Cut, ExtendedMantissa.roundedMantissa,
    ExtendedMantissa.accuracy, Accuracy.roundToNearestEven] at h ⊢
  · constructor <;> linarith
  · constructor <;> linarith
  · obtain ho | ho := ho <;> rw [ho] <;> push_cast <;> constructor <;> linarith
  · push_cast
    constructor <;> linarith

/-- A mantissa that was rounded up to the next power of two gets a larger exponent. -/
lemma shift_carry {R : Nat} (hl : binade ≤ R) (hu : R ≤ 2 * binade) (he : -1074 ≤ e) :
    ∃ M E, 0 < M ∧ Canonical M E ∧ E ≤ e + 1 ∧ (M * 2 ^ E : ℚ) = R * 2 ^ e ∧
      shiftToTargetExponent .binary64 R e .exact = (⟨M, false, false⟩, E) := by
  have hb : 0 < binade := by decide
  obtain hu | rfl := Nat.lt_or_eq_of_le hu
  · have hc : Canonical R e := .inr ⟨hl, hu, he⟩
    have hs := hc.shift (Nat.lt_of_lt_of_le hb hl) 0
    simp only [Nat.pow_zero, Nat.mul_one, Int.natCast_zero, Int.sub_zero] at hs
    exact ⟨R, e, Nat.lt_of_lt_of_le hb hl, hc, by omega, rfl, hs⟩
  · have hc : Canonical binade (e + 1) := .inr ⟨Nat.le_refl _, by decide, by omega⟩
    have hs := hc.shift hb 1
    rw [Nat.pow_one, Nat.mul_comm, Int.natCast_one, Int.add_sub_cancel] at hs
    refine ⟨binade, e + 1, hb, hc, Int.le_refl _, ?_, hs⟩
    rw [zpow_add_one₀ (by norm_num)]
    push_cast
    ring

lemma log2_of_cut {j : Nat} (hm : m ≤ q) (hm' : q < m + 1) (hl : 2 ^ (52 + j) ≤ q)
    (hu : q < 2 ^ (53 + j)) : m.log2 = 52 + j := by
  have h₁ : 2 ^ (52 + j) ≤ m := by
    have h : (2 ^ (52 + j) : ℚ) < m + 1 := hl.trans_lt hm'
    exact Nat.lt_succ_iff.mp (by exact_mod_cast h)
  have h₂ : m < 2 ^ (53 + j) := by
    have h : (m : ℚ) < 2 ^ (53 + j) := hm.trans_lt hu
    exact_mod_cast h
  have hp : 0 < m := Nat.lt_of_lt_of_le (Nat.two_pow_pos _) h₁
  refine (Nat.log2_eq_iff (Nat.ne_of_gt hp)).mpr ⟨h₁, ?_⟩
  rwa [Nat.add_right_comm]

lemma Cut.rounded_bounds (h : Cut em q) (hl : 2 ^ 52 ≤ q) (hu : q < 2 ^ 53) :
    binade ≤ em.roundedMantissa ∧ em.roundedMantissa ≤ 2 * binade := by
  obtain ⟨hb, hb'⟩ := h.bounds
  obtain ⟨hr, hr'⟩ := roundedMantissa_bounds em
  have h₁ : binade ≤ em.mantissa := by
    have h : (2 ^ 52 : ℚ) < em.mantissa + 1 := hl.trans_lt hb'
    exact Nat.lt_succ_iff.mp (by exact_mod_cast h)
  have h₂ : em.mantissa < 2 * binade := by
    have h : (em.mantissa : ℚ) < 2 ^ 53 := hb.trans_lt hu
    exact_mod_cast h
  exact ⟨h₁.trans hr, hr'.trans h₂⟩

lemma first_shift {j : Nat} (h : m.log2 = 52 + j) (hp : -1074 ≤ p) :
    shiftToTargetExponent .binary64 m (p - j) a =
      (ExtendedMantissa.ofMantissaAndAccuracy m a >>> j, p) := by
  have ht : Format.binary64.targetExponent (totalExponent m (p - j)) = p := by
    rw [targetExponent_eq, totalExponent, h]
    omega
  have hj : (p - (p - j)).toNat = j := by omega
  have hj' : p - j + j = p := by omega
  rw [shiftToTargetExponent, ht]
  simp only [shiftToExponent, hj, hj']

/-- A number with enough binary digits is rounded to a multiple of its last place that is at most half
of it off. -/
lemma Cut.round {j : Nat} (h : Cut (.ofMantissaAndAccuracy m a) q) (hl : 2 ^ (52 + j) ≤ q)
    (hu : q < 2 ^ (53 + j)) (hp : -1074 ≤ p) :
    ∃ (R M : Nat) (E : Int) (hM : 0 < M), Canonical M E ∧ E ≤ p + 1 ∧
      roundWithAccuracy .binary64 t m (p - j) a = .finite t M E hM ∧
      (M * 2 ^ E : ℚ) = R * 2 ^ p ∧ |(R : ℚ) - q / 2 ^ j| ≤ 1 / 2 := by
  have hm : (ExtendedMantissa.ofMantissaAndAccuracy m a).mantissa = m := by
    obtain _ | o := a
    · rfl
    · cases o <;> rfl
  have hb := h.bounds
  rw [hm] at hb
  have hf := first_shift (a := a) (log2_of_cut hb.1 hb.2 hl hu) hp
  have hs := h.shift j
  generalize ExtendedMantissa.ofMantissaAndAccuracy m a >>> j = em at hf hs
  have hq : 2 ^ 52 ≤ q / 2 ^ j ∧ q / 2 ^ j < 2 ^ 53 := by
    rw [le_div_iff₀ (by positivity), div_lt_iff₀ (by positivity), ← pow_add, ← pow_add]
    exact ⟨hl, hu⟩
  obtain ⟨hl', hu'⟩ := hs.rounded_bounds hq.1 hq.2
  obtain ⟨M, E, hM, hc, hE, hv, hf'⟩ := shift_carry hl' hu' hp
  refine ⟨_, M, E, hM, hc, hE, ?_, hv, hs.rounded⟩
  simp only [roundWithAccuracy, hf, hf', dif_neg (Nat.ne_of_gt hM)]

variable {x : Float} {s : Bool} {v c : ℚ} {l : Int}

def Reads (x : Float) (s : Bool) (v : ℚ) : Prop :=
  ∃ m e, ofFloat x = .finite s m e ∧ v = m * 2 ^ e

/-- `c` has its last place at `l` and is the nearest such number to `v`. -/
structure Rounds (l : Int) (v c : ℚ) : Prop where
  lower : 2 ^ (52 + l) ≤ v
  upper : v < 2 ^ (53 + l)
  multiple : ∃ n : Nat, c = n * 2 ^ l
  near : |c - v| ≤ 2 ^ l / 2

lemma Canonical.ofMagnitude (hc : Canonical m e) (he : e ≤ 970) :
    Double.ofMagnitude s ((e + 1074).toNat * binade + m) = .finite s m e ∧
      (e + 1074).toNat * binade + m < infinity := by
  obtain ⟨hm, rfl⟩ | ⟨hl, hu, he'⟩ := hc
  · have hz : (-1074 + 1074 : Int).toNat * binade + m = m := by simp
    rw [hz]
    exact ⟨ofMagnitude_subnormal hm, hm.trans (by decide)⟩
  · obtain ⟨n, hn⟩ := Int.eq_ofNat_of_zero_le (a := e + 1074) (by omega)
    obtain ⟨k, rfl⟩ := Nat.exists_eq_add_of_le hl
    have hk : k < binade := by omega
    have hb : n * binade + (binade + k) = (n + 1) * binade + k := by ring
    have hi : (n + 1) * binade + k < infinity := by
      have h : (n + 1) * binade ≤ 2045 * binade := Nat.mul_le_mul_right _ (by omega)
      exact Nat.lt_of_lt_of_le (Nat.add_lt_add_of_le_of_lt h hk) (by decide)
    have hd : ((n + 1) * binade + k) / binade = n + 1 := by
      rw [Nat.mul_comm, Nat.mul_add_div (by decide), Nat.div_eq_of_lt hk, Nat.add_zero]
    have hr : ((n + 1) * binade + k) % binade = k := by
      rw [Nat.mul_comm, Nat.mul_add_mod, Nat.mod_eq_of_lt hk]
    have hle : binade ≤ (n + 1) * binade + k :=
      (Nat.le_mul_of_pos_left _ n.succ_pos).trans (Nat.le_add_right _ _)
    rw [hn, Int.toNat_natCast, hb, ofMagnitude_normal hle hi, hd, hr]
    refine ⟨?_, hi⟩
    congr 1
    omega

lemma Canonical.reads (hc : Canonical m e) (hm : 0 < m) (he : e ≤ 970) :
    Reads (.ofModel (.pack (.finite (sign s) m e hm))) s (m * 2 ^ e) := by
  obtain ⟨hb, hi⟩ := hc.ofMagnitude (s := s) he
  have hx := signed_eq s (Nat.lt_trans hi (by decide))
  rw [hb, unpacked, dif_neg (Nat.ne_of_gt hm)] at hx
  rw [← hx]
  exact ⟨m, e, (ofFloat_signed s (Nat.le_of_lt hi)).trans hb, rfl⟩

lemma Cut.reads (h : Cut (.ofMantissaAndAccuracy m a) q) (hl : 2 ^ (52 + l) ≤ q * 2 ^ e)
    (hu : q * 2 ^ e < 2 ^ (53 + l)) (he : e ≤ l) (hmin : -1074 ≤ l) (hmax : l ≤ 969) :
    ∃ c, Reads (.ofModel (.pack (roundWithAccuracy .binary64 (sign s) m e a))) s c ∧
      Rounds l (q * 2 ^ e) c := by
  obtain ⟨j, hj⟩ := Int.eq_ofNat_of_zero_le (Int.sub_nonneg_of_le he)
  obtain rfl : e = l - j := by omega
  have hp : (0 : ℚ) < 2 ^ l := by positivity
  have he : q * 2 ^ (l - j) = q / 2 ^ j * 2 ^ l := by
    rw [zpow_sub₀ (by norm_num), zpow_natCast]
    ring
  have hl' : 2 ^ (52 + j) ≤ q := by
    rw [he, zpow_add₀ (by norm_num)] at hl
    rw [pow_add, ← le_div_iff₀ (by positivity)]
    exact le_of_mul_le_mul_right hl hp
  have hu' : q < 2 ^ (53 + j) := by
    rw [he, zpow_add₀ (by norm_num)] at hu
    rw [pow_add, ← div_lt_iff₀ (by positivity)]
    exact lt_of_mul_lt_mul_right hu hp.le
  obtain ⟨n, M, E, hM, hc, hE, hr, hv, hn⟩ := h.round (p := l) (t := sign s) hl' hu' hmin
  refine ⟨n * 2 ^ l, ?_, hl, hu, ⟨n, rfl⟩, ?_⟩
  · rw [hr, ← hv]
    exact hc.reads hM (by omega)
  · rw [he, ← sub_mul, abs_mul, abs_of_pos hp]
    linarith only [mul_le_mul_of_nonneg_right hn hp.le]

lemma cut_div (n : Nat) {d : Nat} (hd : 0 < d) :
    Cut (.ofMantissaAndAccuracy (n / d) (accuracyOfFraction (n % d) d)) (n / d) := by
  have hd' : (0 : ℚ) < d := Nat.cast_pos.mpr hd
  have hq : (n / d : ℚ) = (n / d : Nat) + (n % d : Nat) / d := by
    have h : ((n / d : Nat) : ℚ) * d + (n % d : Nat) = n := by exact_mod_cast Nat.div_add_mod' n d
    rw [← h]
    field_simp
  have hr : (n % d : Nat) < (d : ℚ) := by exact_mod_cast Nat.mod_lt n hd
  rw [hq, accuracyOfFraction]
  generalize n % d = r at hr
  split
  · next h => 
    subst h
    simp [Cut, ExtendedMantissa.ofMantissaAndAccuracy]
  · next h =>
    have hz : (0 : ℚ) < r / d := div_pos (Nat.cast_pos.mpr (Nat.pos_of_ne_zero h)) hd'
    have ho : (r / d : ℚ) < 1 := (div_lt_one hd').mpr hr
    have half : (2 * r : Nat) / (d : ℚ) = 2 * (r / d) := by
      push_cast
      ring
    rcases Nat.lt_trichotomy (2 * r) d with h | h | h
    · have hh : (2 * r : Nat) / (d : ℚ) < 1 := (div_lt_one hd').mpr (by exact_mod_cast h)
      rw [Nat.compare_eq_lt.mpr h]
      simp only [Cut, ExtendedMantissa.ofMantissaAndAccuracy]
      constructor <;> linarith
    · have hh : (2 * r : Nat) / (d : ℚ) = 1 := (div_eq_one_iff_eq hd'.ne').mpr (by exact_mod_cast h)
      rw [Nat.compare_eq_eq.mpr h]
      simp only [Cut, ExtendedMantissa.ofMantissaAndAccuracy]
      linarith
    · have hh : 1 < (2 * r : Nat) / (d : ℚ) := (one_lt_div hd').mpr (by exact_mod_cast h)
      rw [Nat.compare_eq_gt.mpr h]
      simp only [Cut, ExtendedMantissa.ofMantissaAndAccuracy]
      constructor <;> linarith

lemma hundred_unpacked :
    (100 : Float).toModel.unpack = .finite .positive (25 * 2 ^ 48) (-46) (by decide) :=
  rfl

lemma Reads.finite (hx : Reads x s v) (hv : 0 < v) :
    ∃ m e, 0 < m ∧ ofFloat x = .finite s m e ∧ v = m * 2 ^ e := by
  obtain ⟨m, e, hf, rfl⟩ := hx
  rcases m with _ | m
  · simp at hv
  · exact ⟨m + 1, e, m.succ_pos, hf, rfl⟩

lemma Reads.unpack (hx : Reads x s v) (hv : 0 < v) : ∃ m e, ∃ hm : 0 < m,
    x.toModel.unpack = .finite (sign s) m e hm ∧ v = m * 2 ^ e := by
  obtain ⟨m, e, hm, hf, hv⟩ := hx.finite hv
  refine ⟨m, e, hm, ?_, hv⟩
  rw [unpack_toModel, hf, unpacked, dif_neg (Nat.ne_of_gt hm)]

lemma Reads.mul_hundred (hx : Reads x s v) (hl : 2 ^ (52 + l) ≤ 100 * v)
    (hu : 100 * v < 2 ^ (53 + l)) (hmin : -1074 ≤ l) (hmax : l ≤ 969) :
    ∃ c, Reads (x * 100) s c ∧ Rounds l (100 * v) c := by
  have hv : 0 < v := by
    have h : (0 : ℚ) < 2 ^ (52 + l) := by positivity
    linarith
  obtain ⟨m, e, hm, hf, rfl⟩ := hx.unpack hv
  have hq : (100 * (m * 2 ^ e) : ℚ) = (m * (25 * 2 ^ 48) : Nat) * 2 ^ (e + -46) := by
    rw [zpow_add₀ (by norm_num)]
    push_cast
    ring
  have he : e + -46 ≤ l := by
    have h₁ : (2 ^ 52 * 2 ^ (e + -46) : ℚ) ≤ (m * (25 * 2 ^ 48) : Nat) * 2 ^ (e + -46) := by
      refine mul_le_mul_of_nonneg_right ?_ (by positivity)
      exact_mod_cast Nat.le_trans (by decide) (Nat.le_mul_of_pos_left (25 * 2 ^ 48) hm)
    have h₂ : (2 : ℚ) ^ (52 + (e + -46)) < 2 ^ (53 + l) := by
      rw [zpow_add₀ (by norm_num)]
      exact h₁.trans_lt (hq ▸ hu)
    have h₃ := (zpow_lt_zpow_iff_right₀ (by norm_num)).mp h₂
    omega
  rw [hq] at hl hu ⊢
  have hs : sign s * .positive = sign s := by cases s <;> rfl
  have hmul : x * 100 = .ofModel (.pack (roundWithAccuracy .binary64 (sign s)
      (m * (25 * 2 ^ 48)) (e + -46) .exact)) := by
    rw [mul_def, hf, hundred_unpacked, UnpackedFloat.mul, hs]
  rw [hmul]
  exact Cut.reads (show Cut _ _ from rfl) hl hu he hmin hmax

/-- The mantissa is extended until the quotient has enough digits. -/
lemma divCore_hundred (hm : 0 < m) (hu : (m * 2 ^ e / 100 : ℚ) < 2 ^ (53 + l)) (hl : -1074 ≤ l) :
    ∃ k : Nat, e + 46 - k ≤ l ∧ divCore .binary64 m e (25 * 2 ^ 48) (-46) =
      (m * 2 ^ k / (25 * 2 ^ 48), e + 46 - k,
        accuracyOfFraction (m * 2 ^ k % (25 * 2 ^ 48)) (25 * 2 ^ 48)) := by
  have he : (m.log2 : Int) + e - 59 ≤ l := by
    have h₁ : (2 : ℚ) ^ ((m.log2 : Int) + (e - 7)) < 2 ^ (53 + l) := by
      refine lt_of_le_of_lt ?_ hu
      rw [zpow_add₀ (by norm_num), zpow_sub₀ (by norm_num), mul_div_assoc]
      refine mul_le_mul (log2_bounds hm).1 ?_ (by positivity) (by positivity)
      exact div_le_div_of_nonneg_left (by positivity) (by norm_num) (by norm_num)
    have h₂ := (zpow_lt_zpow_iff_right₀ (by norm_num)).mp h₁
    omega
  have ht : totalExponent (25 * 2 ^ 48) (-46) = 7 := by decide
  refine ⟨(e - -46 - min (e - -46) (Format.binary64.targetExponent
    (totalExponent m e - totalExponent (25 * 2 ^ 48) (-46)))).toNat, ?_, ?_⟩
  · rw [ht, targetExponent_eq, totalExponent]
    omega
  · rw [divCore]
    simp only [Nat.shiftLeft_eq]
    congr 2
    omega

lemma div_def (x y : Float) :
    x / y = .ofModel (.pack (UnpackedFloat.div .binary64 x.toModel.unpack y.toModel.unpack)) :=
  rfl

lemma Reads.div_hundred (hx : Reads x s v) (hl : 2 ^ (52 + l) ≤ v / 100)
    (hu : v / 100 < 2 ^ (53 + l)) (hmin : -1074 ≤ l) (hmax : l ≤ 969) :
    ∃ c, Reads (x / 100) s c ∧ Rounds l (v / 100) c := by
  have hv : 0 < v := by
    have h : (0 : ℚ) < 2 ^ (52 + l) := by positivity
    linarith
  obtain ⟨m, e, hm, hf, rfl⟩ := hx.unpack hv
  obtain ⟨k, he, hd⟩ := divCore_hundred hm hu hmin
  have hq : (m * 2 ^ e / 100 : ℚ) =
      ((m * 2 ^ k : Nat) / (25 * 2 ^ 48 : Nat)) * 2 ^ (e + 46 - k) := by
    rw [zpow_sub₀ (by norm_num), zpow_add₀ (by norm_num), zpow_natCast]
    push_cast
    field_simp
    norm_num
  rw [hq] at hl hu ⊢
  have hs : sign s / .positive = sign s := by cases s <;> rfl
  have hdiv : x / 100 = .ofModel (.pack (roundWithAccuracy .binary64 (sign s)
      (m * 2 ^ k / (25 * 2 ^ 48)) (e + 46 - k)
      (accuracyOfFraction (m * 2 ^ k % (25 * 2 ^ 48)) (25 * 2 ^ 48)))) := by
    rw [div_def, hf, hundred_unpacked, UnpackedFloat.div, hd, hs]
  rw [hdiv]
  exact (cut_div _ (by decide)).reads hl hu he hmin hmax

end QuantityCalculator.Double
