import QuantityCalculator.Proofs.Number.Bits

/-!
Where arithmetic on doubles is exact: products with one, sums with zero, and opposites.
-/

namespace QuantityCalculator.Double

open Float.Model Float.Model.UnpackedFloat

/-- The one way to write a number that a double is read as. -/
def Canonical (m : Nat) (e : Int) : Prop :=
  (m < binade ∧ e = -1074) ∨ (binade ≤ m ∧ m < 2 * binade ∧ -1074 ≤ e)

variable {x y : Float} {s : Bool} {m b : Nat} {e : Int}

lemma ofMagnitude_finite (h : b < infinity) :
    ∃ m e, Canonical m e ∧ b = (e + 1074).toNat * binade + m ∧
      ∀ s, ofMagnitude s b = .finite s m e := by
  by_cases hb : b < binade
  · exact ⟨b, -1074, .inl ⟨hb, rfl⟩, by simp, fun _ => ofMagnitude_subnormal hb⟩
  · have hn : binade ≤ b := Nat.le_of_not_lt hb
    have hr : b % binade < binade := Nat.mod_lt _ (by decide)
    have hq : 0 < b / binade := Nat.div_pos hn (by decide)
    refine ⟨_, _, .inr ⟨Nat.le_add_right _ _, ?_, ?_⟩, ?_, fun _ => ofMagnitude_normal hn h⟩
    · rw [Nat.two_mul]
      exact Nat.add_lt_add_left hr _
    · omega
    · have he : (((b / binade : Nat) : Int) - 1075 + 1074).toNat = b / binade - 1 := by omega
      rw [he, ← Nat.add_assoc, ← Nat.succ_mul, Nat.succ_eq_add_one, Nat.sub_add_cancel hq,
        Nat.div_add_mod']

lemma isFinite_iff : x.isFinite ↔ ∃ s m e, ofFloat x = .finite s m e := by
  change x.toModel.unpack.isFinite ↔ _
  rw [unpack_toModel]
  cases h : ofFloat x with
  | nan => simp [unpacked, UnpackedFloat.isFinite]
  | infinite => simp [unpacked, UnpackedFloat.isFinite]
  | finite s m e =>
    refine iff_of_true ?_ ⟨s, m, e, rfl⟩
    rw [unpacked]
    split <;> rfl

lemma signed_of_finite (h : ofFloat x = .finite s m e) :
    Canonical m e ∧ ∃ b < infinity, x = signed s b ∧ b = (e + 1074).toNat * binade + m := by
  obtain ⟨t, b, hlt, hx, hb⟩ := exists_signed x
  rw [h] at hb
  have hi : b < infinity := by
    rcases Nat.lt_trichotomy b infinity with hn | rfl | hn
    · exact hn
    · contradiction
    · rw [ofMagnitude_nan hn hlt] at hb
      contradiction
  obtain ⟨m', e', hc, hm, hf⟩ := ofMagnitude_finite hi
  rw [hf] at hb
  cases hb
  exact ⟨hc, b, hi, hx, hm⟩

lemma isFinite_signed (s : Bool) (h : b < infinity) : (signed s b).isFinite := by
  obtain ⟨m, e, -, -, hf⟩ := ofMagnitude_finite h
  exact isFinite_iff.mpr ⟨s, m, e, (ofFloat_signed s (Nat.le_of_lt h)).trans (hf s)⟩

lemma shiftRight_two_pow (m k : Nat) :
    (⟨m * 2 ^ k, false, false⟩ : ExtendedMantissa) >>> k = ⟨m, false, false⟩ := by
  induction k generalizing m with
  | zero => simp [HShiftRight.hShiftRight, Nat.repeat]
  | succ k ih =>
    have h := ih (m * 2)
    rw [Nat.mul_assoc, ← Nat.pow_succ'] at h
    exact (congrArg ExtendedMantissa.shiftRightOne h).trans
      (by simp [ExtendedMantissa.shiftRightOne])

lemma targetExponent_eq (t : Int) : Format.binary64.targetExponent t = max (t - 53) (-1074) :=
  rfl

lemma totalExponent_two_pow (hm : 0 < m) (k : Nat) :
    totalExponent (m * 2 ^ k) (e - k) = totalExponent m e := by
  have hl := (Nat.log2_eq_iff (Nat.ne_of_gt hm)).mp rfl
  have hk : (m * 2 ^ k).log2 = m.log2 + k := by
    rw [Nat.log2_eq_iff (Nat.ne_of_gt (Nat.mul_pos hm (Nat.two_pow_pos k))), Nat.add_right_comm,
      Nat.pow_add, Nat.pow_add _ _ k]
    exact ⟨Nat.mul_le_mul_right _ hl.1, Nat.mul_lt_mul_of_pos_right hl.2 (Nat.two_pow_pos k)⟩
  rw [totalExponent, totalExponent, hk]
  omega

lemma Canonical.target (h : Canonical m e) (hm : 0 < m) :
    Format.binary64.targetExponent (totalExponent m e) = e := by
  rw [targetExponent_eq, totalExponent]
  obtain ⟨hb, rfl⟩ | ⟨hl, hu, he⟩ := h
  · have h := (Nat.log2_lt (k := 52) (Nat.ne_of_gt hm)).mpr hb
    omega
  · have h := (Nat.log2_eq_iff (k := 52) (Nat.ne_of_gt hm)).mpr ⟨hl, hu⟩
    omega

lemma Canonical.shift (h : Canonical m e) (hm : 0 < m) (k : Nat) :
    shiftToTargetExponent .binary64 (m * 2 ^ k) (e - k) .exact = (⟨m, false, false⟩, e) := by
  have hk : (e - (e - k)).toNat = k := by omega
  have he : e - k + k = e := by omega
  rw [shiftToTargetExponent, totalExponent_two_pow hm, h.target hm, shiftToExponent]
  simp only [hk, he, ExtendedMantissa.ofMantissaAndAccuracy, shiftRight_two_pow]

/-- What can be written so needs no rounding. -/
lemma Canonical.round (h : Canonical m e) (hm : 0 < m) (k : Nat) (t : Sign) :
    roundWithAccuracy .binary64 t (m * 2 ^ k) (e - k) .exact = .finite t m e hm := by
  have hs := h.shift hm 0
  simp only [Nat.pow_zero, Nat.mul_one, Int.natCast_zero, Int.sub_zero] at hs
  have hr : (⟨m, false, false⟩ : ExtendedMantissa).roundedMantissa = m := rfl
  simp only [roundWithAccuracy, h.shift hm k, hr, hs, dif_neg (Nat.ne_of_gt hm)]

def IsZero (x : Float) : Prop :=
  ∃ t, x.toModel.unpack = .zero t

lemma mul_def (x y : Float) :
    x * y = .ofModel (.pack (UnpackedFloat.mul .binary64 x.toModel.unpack y.toModel.unpack)) :=
  rfl

lemma add_def (x y : Float) :
    x + y = .ofModel (.pack (UnpackedFloat.add .binary64 x.toModel.unpack y.toModel.unpack)) :=
  rfl

lemma sub_def (x y : Float) :
    x - y = .ofModel (.pack (UnpackedFloat.sub .binary64 x.toModel.unpack y.toModel.unpack)) :=
  rfl

lemma unpack_one : (1 : Float).toModel.unpack = .finite .positive (2 ^ 52) (-52) (by decide) :=
  rfl

lemma unpack_zero : (0 : Float).toModel.unpack = .zero .positive :=
  rfl

lemma isZero_zero : IsZero 0 :=
  ⟨.positive, rfl⟩

lemma isZero_ofModel (t : Sign) : IsZero (.ofModel (.pack (.zero t))) := by
  refine ⟨t, ?_⟩
  cases t <;> rfl

lemma unpack_of_finite (h : x.isFinite) : IsZero x ∨ ∃ t m e, ∃ hm : 0 < m,
    Canonical m e ∧ x.toModel.unpack = .finite t m e hm := by
  obtain ⟨s, m, e, h⟩ := isFinite_iff.mp h
  have hu := unpack_toModel x
  rw [h, unpacked] at hu
  by_cases hm : m = 0
  · rw [dif_pos hm] at hu
    exact .inl ⟨_, hu⟩
  · rw [dif_neg hm] at hu
    exact .inr ⟨_, m, e, Nat.pos_of_ne_zero hm, (signed_of_finite h).1, hu⟩

lemma one_mul (h : x.isFinite) : 1 * x = x := by
  have hx : UnpackedFloat.mul .binary64 (1 : Float).toModel.unpack x.toModel.unpack =
      x.toModel.unpack := by
    obtain ⟨t, h⟩ | ⟨t, m, e, hm, hc, h⟩ := unpack_of_finite h
    · rw [h, unpack_one]
      cases t <;> rfl
    · have hr := hc.round hm 52 t
      rw [Nat.mul_comm, Int.sub_eq_add_neg, Int.add_comm] at hr
      rw [h, unpack_one]
      cases t <;> exact hr
  rw [mul_def, hx, ofModel_pack_unpack]

lemma mul_one (h : x.isFinite) : x * 1 = x := by
  have hx : UnpackedFloat.mul .binary64 x.toModel.unpack (1 : Float).toModel.unpack =
      x.toModel.unpack := by
    obtain ⟨t, h⟩ | ⟨t, m, e, hm, hc, h⟩ := unpack_of_finite h
    · rw [h, unpack_one]
      cases t <;> rfl
    · have hr := hc.round hm 52 t
      rw [Int.sub_eq_add_neg] at hr
      rw [h, unpack_one]
      cases t <;> exact hr
  rw [mul_def, hx, ofModel_pack_unpack]

lemma not_isZero_nan : ¬ IsZero (.ofModel (.pack .notANumber)) := by
  have hu : (Float.ofModel (.pack .notANumber)).toModel.unpack = .notANumber := rfl
  rintro ⟨t, ht⟩
  rw [hu] at ht
  cases ht

/-- Zero times an infinity is not a number. -/
lemma IsZero.mul_iff (hx : IsZero x) : IsZero (x * y) ↔ y.isFinite := by
  obtain ⟨t, hx⟩ := hx
  change _ ↔ y.toModel.unpack.isFinite
  rw [mul_def, hx]
  cases y.toModel.unpack with
  | notANumber | infinity => exact iff_of_false not_isZero_nan Bool.false_ne_true
  | zero | finite => exact iff_of_true (isZero_ofModel _) rfl

lemma zero_mul (h : x.isFinite) : IsZero (0 * x) :=
  isZero_zero.mul_iff.mpr h

lemma IsZero.isFinite (h : IsZero x) : x.isFinite := by
  obtain ⟨t, h⟩ := h
  change x.toModel.unpack.isFinite
  rw [h]
  rfl

lemma IsZero.add (hx : IsZero x) (hy : IsZero y) : IsZero (x + y) := by
  obtain ⟨t, hx⟩ := hx
  obtain ⟨u, hy⟩ := hy
  rw [add_def, hx, hy]
  cases t <;> cases u <;> exact isZero_ofModel _

lemma IsZero.sub (hx : IsZero x) (hy : IsZero y) : IsZero (x - y) := by
  obtain ⟨t, hx⟩ := hx
  obtain ⟨u, hy⟩ := hy
  rw [sub_def, hx, hy]
  cases t <;> cases u <;> exact isZero_ofModel _

lemma IsZero.add_eq (hx : IsZero x) (hy : ¬ IsZero y) : x + y = y := by
  obtain ⟨t, hx⟩ := hx
  have ha : UnpackedFloat.add .binary64 x.toModel.unpack y.toModel.unpack = y.toModel.unpack := by
    rw [hx]
    cases h : y.toModel.unpack with
    | zero u => exact absurd ⟨u, h⟩ hy
    | _ => rfl
  rw [add_def, ha, ofModel_pack_unpack]

lemma IsZero.eq_add (hx : IsZero x) (hy : ¬ IsZero y) : y + x = y := by
  obtain ⟨t, hx⟩ := hx
  have ha : UnpackedFloat.add .binary64 y.toModel.unpack x.toModel.unpack = y.toModel.unpack := by
    rw [hx]
    cases h : y.toModel.unpack with
    | zero u => exact absurd ⟨u, h⟩ hy
    | _ => rfl
  rw [add_def, ha, ofModel_pack_unpack]

lemma IsZero.beq (hx : IsZero x) (hy : IsZero y) : x == y := by
  obtain ⟨t, hx⟩ := hx
  obtain ⟨u, hy⟩ := hy
  change x.toModel.unpack.beq y.toModel.unpack
  rw [hx, hy]
  rfl

lemma beq_zero_iff : x == 0 ↔ IsZero x := by
  change x.toModel.unpack.beq (0 : Float).toModel.unpack ↔ _
  rw [unpack_zero, IsZero]
  cases x.toModel.unpack with
  | zero t => exact iff_of_true rfl ⟨t, rfl⟩
  | notANumber => exact iff_of_false nofun nofun
  | infinity t => cases t <;> exact iff_of_false nofun nofun
  | finite t => cases t <;> exact iff_of_false nofun nofun

lemma beq_self (h : x.isFinite) : x == x := by
  change x.toModel.unpack.beq x.toModel.unpack
  obtain ⟨t, h⟩ | ⟨t, m, e, hm, -, h⟩ := unpack_of_finite h
  · rw [h]
    rfl
  · rw [h]
    cases t <;> simp [UnpackedFloat.beq, UnpackedFloat.compare]

/-- Equal, where the sign of a zero does not count. -/
def Same (x y : Float) : Prop :=
  x = y ∨ IsZero x ∧ IsZero y

lemma Same.trans {z : Float} (h : Same x y) (h' : Same y z) : Same x z := by
  obtain rfl | ⟨hx, hy⟩ := h
  · exact h'
  · obtain rfl | ⟨-, hz⟩ := h'
    · exact .inr ⟨hx, hy⟩
    · exact .inr ⟨hx, hz⟩

lemma Same.isZero (h : Same x y) (hy : IsZero y) : IsZero x := by
  obtain rfl | ⟨hx, -⟩ := h
  · exact hy
  · exact hx

lemma Same.beq (h : Same x y) (hy : y.isFinite) : x == y := by
  obtain rfl | ⟨hx, hy⟩ := h
  · exact beq_self hy
  · exact hx.beq hy

lemma zero_add_same (x : Float) : Same (0 + x) x := by
  by_cases hx : IsZero x
  · exact .inr ⟨isZero_zero.add hx, hx⟩
  · exact .inl (isZero_zero.add_eq hx)

lemma same_add (x : Float) (hy : IsZero y) : Same (x + y) x := by
  by_cases hx : IsZero x
  · exact .inr ⟨hx.add hy, hx⟩
  · exact .inl (hy.eq_add hx)

lemma neg_unpacked (s : Bool) (h : b < infinity) :
    (ofMagnitude s b).unpacked.neg = (ofMagnitude (!s) b).unpacked := by
  obtain ⟨m, e, -, -, hf⟩ := ofMagnitude_finite h
  rw [hf, hf, unpacked, unpacked]
  by_cases hm : m = 0
  · rw [dif_pos hm, dif_pos hm]
    cases s <;> rfl
  · rw [dif_neg hm, dif_neg hm]
    cases s <;> rfl

lemma neg_signed (s : Bool) (h : b < infinity) : -signed s b = signed (!s) b := by
  change Float.ofModel (.pack (signed s b).toModel.unpack.neg) = _
  rw [unpack_toModel, ofFloat_signed s (Nat.le_of_lt h), neg_unpacked s h, signed_eq]
  exact Nat.lt_trans h (by decide)

end QuantityCalculator.Double
