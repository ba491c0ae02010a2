import Mathlib
import QuantityCalculator.Number.Double

/-!
The patterns of doubles. Main statements: what a pattern stands for is what arithmetic takes it for,
and the pattern is made again from it.
-/

namespace QuantityCalculator.Double

open Float.Model Float.Model.UnpackedFloat

variable {s : Bool}

def sign (negative : Bool) : Sign :=
  if negative then .negative else .positive

lemma toNat_unpackMantissa (b : BitVec Format.binary64.numBits) :
    (unpackMantissa b).toNat = b.toNat % 2 ^ 52 := by
  simp [unpackMantissa, BitVec.extractLsb, BitVec.extractLsb'_toNat]

lemma toNat_unpackExponent (b : BitVec Format.binary64.numBits) :
    (unpackExponent b).toNat = b.toNat / 2 ^ 52 % 2 ^ 11 := by
  simp [unpackExponent, BitVec.extractLsb, BitVec.extractLsb'_toNat, Nat.shiftRight_eq_div_pow]

lemma toNat_unpackSign (b : BitVec Format.binary64.numBits) :
    (unpackSign b).toNat = b.toNat / 2 ^ 63 := by
  have hb : b.toNat < 2 ^ 64 := b.isLt
  simp [unpackSign, BitVec.extractLsb, BitVec.extractLsb'_toNat, Nat.shiftRight_eq_div_pow]
  omega

lemma toNat_packComponents (s : Sign) (e : BitVec 11) (m : BitVec 52) :
    (packComponents .binary64 s e m).toNat =
      s.toBitVec.toNat * 2 ^ 63 + e.toNat * 2 ^ 52 + m.toNat := by
  have he := e.isLt
  have hm := m.isLt
  rw [packComponents, BitVec.toNat_append, BitVec.toNat_append, ← Nat.shiftLeft_add_eq_or_of_lt he,
    ← Nat.shiftLeft_add_eq_or_of_lt hm, Nat.shiftLeft_eq, Nat.shiftLeft_eq]
  omega

def unpacked : Double → UnpackedFloat
  | .nan => .notANumber
  | .infinite negative => .infinity (sign negative)
  | .finite negative mantissa exponent =>
    if h : mantissa = 0 then .zero (sign negative)
    else .finite (sign negative) mantissa exponent (Nat.pos_of_ne_zero h)

lemma ofBitVec_unpackSign (b : BitVec Format.binary64.numBits) :
    Sign.ofBitVec (unpackSign b) = sign (decide (signBit ≤ b.toNat)) := by
  have hb : b.toNat < 2 ^ 64 := b.isLt
  have hs := toNat_unpackSign b
  rw [Sign.ofBitVec, sign]
  by_cases h : signBit ≤ b.toNat
  · have hn : unpackSign b ≠ 0#1 := by
      intro hz
      rw [hz] at hs
      simp only [signBit, BitVec.toNat_ofNat, Nat.zero_mod] at h hs
      omega
    simp [h, hn]
  · have hz : unpackSign b = 0#1 := by
      apply BitVec.eq_of_toNat_eq
      simp only [signBit, BitVec.toNat_ofNat] at h hs ⊢
      omega
    simp [h, hz]

lemma ofMagnitude_subnormal {b : Nat} (h : b < binade) : ofMagnitude s b = .finite s b (-1074) := by
  simp [ofMagnitude, Nat.div_eq_of_lt h, Nat.mod_eq_of_lt h]

lemma ofMagnitude_normal {b : Nat} (h : binade ≤ b) (hi : b < infinity) :
    ofMagnitude s b = .finite s (binade + b % binade) ((b / binade : Nat) - 1075) := by
  have hl : b / binade ≠ 0 := Nat.ne_of_gt (Nat.div_pos h (by decide))
  have hu : b / binade ≠ 2047 := Nat.ne_of_lt (Nat.div_lt_of_lt_mul (Nat.mul_comm _ 2047 ▸ hi))
  simp only [ofMagnitude]

lemma ofMagnitude_nan {b : Nat} (h : infinity < b) (hs : b < signBit) : ofMagnitude s b = .nan := by
  have h : 2047 * 0x10000000000000 < b := h
  rw [signBit] at hs
  have hq : b / binade = 2047 := by rw [binade]; omega
  have hr : b % binade ≠ 0 := by rw [binade]; omega
  simp [ofMagnitude, hq, hr]

lemma toNat_pos {n : Nat} {v : BitVec n} (h : v ≠ 0#n) : 0 < v.toNat :=
  Nat.pos_of_ne_zero fun hn => h (BitVec.eq_of_toNat_eq hn)

lemma toNat_eq_magnitude (b : BitVec Format.binary64.numBits) :
    b.toNat % signBit = (unpackExponent b).toNat * binade + (unpackMantissa b).toNat := by
  rw [toNat_unpackMantissa, toNat_unpackExponent, signBit, binade]
  omega

lemma finite_congr {t : Sign} {m m' : Nat} {e e' : Int} {h : 0 < m} {h' : 0 < m'} (hm : m = m')
    (he : e = e') : UnpackedFloat.finite t m e h = .finite t m' e' h' := by
  subst hm he
  rfl

variable {b : BitVec Format.binary64.numBits}

lemma unpack_top (h : unpackExponent b = -1#_) :
    UnpackedFloat.unpack .binary64 b =
      (ofMagnitude (decide (signBit ≤ b.toNat)) (b.toNat % signBit)).unpacked := by
  have hb := toNat_eq_magnitude b
  have he : (unpackExponent b).toNat = 2047 := by rw [h]; rfl
  rw [UnpackedFloat.unpack, if_pos h]
  by_cases hz : unpackMantissa b = 0#_
  · rw [hz, he] at hb
    rw [if_pos hz, hb, ofBitVec_unpackSign]
    rfl
  · have hm : 0 < (unpackMantissa b).toNat := toNat_pos hz
    rw [if_neg hz, ofMagnitude_nan, unpacked]
    · rw [hb, he]
      exact Nat.lt_add_of_pos_right hm
    · exact Nat.mod_lt _ (by decide)

lemma unpack_bottom (h : unpackExponent b = 0#_) :
    UnpackedFloat.unpack .binary64 b =
      (ofMagnitude (decide (signBit ≤ b.toNat)) (b.toNat % signBit)).unpacked := by
  have hb := toNat_eq_magnitude b
  have he : (unpackExponent b).toNat = 0 := by rw [h]; rfl
  have hn : unpackExponent b ≠ -1#_ := by rw [h]; decide
  rw [he, Nat.zero_mul, Nat.zero_add] at hb
  rw [UnpackedFloat.unpack, if_neg hn, if_pos h, hb,
    ofMagnitude_subnormal (unpackMantissa b).isLt, unpacked, ← ofBitVec_unpackSign]
  by_cases hz : unpackMantissa b = 0#_
  · rw [dif_pos hz, dif_pos (by rw [hz]; rfl)]
  · rw [dif_neg hz, dif_neg (Nat.ne_of_gt (toNat_pos hz))]
    apply finite_congr rfl
    rw [he]
    rfl

lemma unpack_between (h : unpackExponent b ≠ -1#_) (h' : unpackExponent b ≠ 0#_) :
    UnpackedFloat.unpack .binary64 b =
      (ofMagnitude (decide (signBit ≤ b.toNat)) (b.toNat % signBit)).unpacked := by
  have hb := toNat_eq_magnitude b
  have hm : (unpackMantissa b).toNat < binade := (unpackMantissa b).isLt
  have he : (unpackExponent b).toNat < 2048 := (unpackExponent b).isLt
  have hi : (unpackExponent b).toNat ≠ 2047 := fun hn => h (BitVec.eq_of_toNat_eq hn)
  have hq : b.toNat % signBit / binade = (unpackExponent b).toNat := by
    rw [hb, Nat.add_comm, Nat.add_mul_div_right _ _ (by decide), Nat.div_eq_of_lt hm, Nat.zero_add]
  have hr : b.toNat % signBit % binade = (unpackMantissa b).toNat := by
    rw [hb, Nat.add_comm, Nat.add_mul_mod_self_right, Nat.mod_eq_of_lt hm]
  have hl : binade ≤ b.toNat % signBit := by
    rw [hb]
    exact Nat.le_trans (Nat.le_mul_of_pos_left _ (toNat_pos h')) (Nat.le_add_right _ _)
  have hu : b.toNat % signBit < infinity := by
    rw [hb]
    apply Nat.lt_of_lt_of_le (Nat.add_lt_add_left hm _)
    rw [← Nat.succ_mul]
    exact Nat.mul_le_mul_right _ (by omega)
  rw [UnpackedFloat.unpack, if_neg h, if_neg h', ofMagnitude_normal hl hu, unpacked, hq, hr,
    ← ofBitVec_unpackSign, dif_neg (Nat.ne_of_gt (Nat.add_pos_left (by decide) _))]
  apply finite_congr _ rfl
  rw [BitVec.toNat_append, ← Nat.shiftLeft_add_eq_or_of_lt (unpackMantissa b).isLt]
  rfl

lemma unpack_eq_unpacked (b : BitVec Format.binary64.numBits) :
    UnpackedFloat.unpack .binary64 b =
      (ofMagnitude (decide (signBit ≤ b.toNat)) (b.toNat % signBit)).unpacked := by
  by_cases h : unpackExponent b = -1#_
  · exact unpack_top h
  · by_cases h' : unpackExponent b = 0#_
    · exact unpack_bottom h'
    · exact unpack_between h h'

lemma pack_subnormal (t : Sign) {b : Nat} (hb : 0 < b) (h : b < binade) :
    UnpackedFloat.pack .binary64 (.finite t b (-1074) hb) =
      packComponents .binary64 t 0#11 (BitVec.ofNat 52 b) := by
  have hl : b.log2 < 52 := (Nat.log2_lt (Nat.ne_of_gt hb)).mpr h
  have hn : ¬ b.log2 + 1 = Format.binary64.mantissaBits := by
    change ¬ b.log2 + 1 = 53
    omega
  rw [UnpackedFloat.pack, if_neg (by decide), if_neg hn]

lemma pack_normal (t : Sign) {f m : Nat} (hf : f < 2047) (hm : binade ≤ m) (hm' : m < 2 * binade)
    (h : 0 < m) :
    UnpackedFloat.pack .binary64 (.finite t m (f - 1075) h) =
      packComponents .binary64 t (BitVec.ofNat 11 f) (BitVec.ofNat 52 m) := by
  have hl : m.log2 = 52 := (Nat.log2_eq_iff (Nat.ne_of_gt h)).mpr ⟨hm, hm'⟩
  have hb : ((f - 1075 : Int) + Format.binary64.exponentBias +
      Format.binary64.mantissaBitsWithoutImplicit).toNat = f := by
    change ((f - 1075 : Int) + 1023 + 52).toNat = f
    omega
  have hn : ¬ 2 ^ Format.binary64.exponentBits ≤ f + 1 := by
    change ¬ 2048 ≤ f + 1
    omega
  rw [UnpackedFloat.pack]
  simp only [hb, hl]
  rw [if_neg hn, if_pos (by decide)]

lemma pack_unpacked {b : Nat} (h : b ≤ infinity) :
    UnpackedFloat.pack .binary64 (ofMagnitude s b).unpacked =
      packComponents .binary64 (sign s) (BitVec.ofNat 11 (b / binade)) (BitVec.ofNat 52 b) := by
  by_cases hs : b < binade
  · rw [ofMagnitude_subnormal hs, unpacked, Nat.div_eq_of_lt hs]
    by_cases hz : b = 0
    · rw [dif_pos hz, hz]
      rfl
    · rw [dif_neg hz, pack_subnormal _ _ hs]
  · by_cases hi : b = infinity
    · subst hi
      rfl
    · have hn : binade ≤ b := Nat.le_of_not_lt hs
      have hlt : b < infinity := Nat.lt_of_le_of_ne h hi
      have hq : b / binade < 2047 := Nat.div_lt_of_lt_mul (Nat.mul_comm _ 2047 ▸ hlt)
      have hr : b % binade < binade := Nat.mod_lt _ (by decide)
      have hm : binade + b % binade < 2 * binade := by
        rw [Nat.two_mul]
        exact Nat.add_lt_add_left hr _
      have hp : 0 < binade + b % binade := Nat.add_pos_left (by decide) _
      rw [ofMagnitude_normal hn hlt, unpacked, dif_neg (Nat.ne_of_gt hp),
        pack_normal _ hq (Nat.le_add_right _ _) hm hp]
      congr 1
      apply BitVec.eq_of_toNat_eq
      simp [binade]

def word (negative : Bool) (bits : Nat) : Nat :=
  if negative then signBit + bits else bits

lemma word_split {n : Nat} (h : n < 2 * signBit) :
    word (decide (signBit ≤ n)) (n % signBit) = n := by
  rw [word]
  by_cases hs : signBit ≤ n
  · rw [if_pos (decide_eq_true hs), Nat.mod_eq_sub_mod hs, Nat.mod_eq_of_lt (by omega)]
    omega
  · rw [if_neg (by simpa using hs), Nat.mod_eq_of_lt (by omega)]

lemma split_word (s : Bool) {b : Nat} (h : b < signBit) :
    word s b < 2 * signBit ∧ decide (signBit ≤ word s b) = s ∧ word s b % signBit = b := by
  cases s
  · refine ⟨?_, ?_, Nat.mod_eq_of_lt h⟩
    · change b < _
      omega
    · exact decide_eq_false (Nat.not_le_of_lt h)
  · refine ⟨?_, ?_, ?_⟩
    · change signBit + b < _
      omega
    · exact decide_eq_true (Nat.le_add_right _ _)
    · change (signBit + b) % signBit = b
      rw [Nat.add_mod_left, Nat.mod_eq_of_lt h]

lemma toNat_pack_unpacked {b : Nat} (h : b ≤ infinity) :
    (UnpackedFloat.pack .binary64 (ofMagnitude s b).unpacked).toNat = word s b := by
  have hq : b / binade < 2048 := Nat.lt_of_le_of_lt (Nat.div_le_div_right h) (by decide)
  have hd : b / binade * binade + b % binade = b := Nat.div_add_mod' b binade
  rw [pack_unpacked h, toNat_packComponents, BitVec.toNat_ofNat, BitVec.toNat_ofNat,
    Nat.mod_eq_of_lt hq]
  cases s
  · exact (congrArg (· + _) (Nat.zero_add _)).trans hd
  · exact (Nat.add_assoc ..).trans (congrArg (signBit + ·) hd)

lemma nan_of_magnitude {b : BitVec Format.binary64.numBits} (h : infinity < b.toNat % signBit) :
    unpackExponent b = -1#_ ∧ unpackMantissa b ≠ 0#_ := by
  have hb : b.toNat % signBit =
    (unpackExponent b).toNat * 0x10000000000000 + (unpackMantissa b).toNat := toNat_eq_magnitude b
  have hi : 2047 * 0x10000000000000 < b.toNat % signBit := h
  have hm : (unpackMantissa b).toNat < 0x10000000000000 := (unpackMantissa b).isLt
  have he : (unpackExponent b).toNat < 2048 := (unpackExponent b).isLt
  constructor
  · apply BitVec.eq_of_toNat_eq
    change _ = 2047
    omega
  · intro hz
    rw [hz] at hb
    change _ = _ + 0 at hb
    omega

/-- Nothing is lost of a pattern, if it is the canonical one where it is a NaN. -/
lemma pack_unpack {b : BitVec Format.binary64.numBits} (h : Format.binary64.Valid b) :
    UnpackedFloat.pack .binary64 (UnpackedFloat.unpack .binary64 b) = b := by
  by_cases hi : b.toNat % signBit ≤ infinity
  · apply BitVec.eq_of_toNat_eq
    rw [unpack_eq_unpacked, toNat_pack_unpacked hi]
    exact word_split b.isLt
  · have hn := Nat.lt_of_not_le hi
    obtain ⟨he, hm⟩ := nan_of_magnitude hn
    rw [unpack_eq_unpacked, ofMagnitude_nan hn (Nat.mod_lt _ (by decide))]
    exact (h.eq_packedNaN he hm).symm

lemma ofModel_pack_unpack (x : Float) : Float.ofModel (.pack x.toModel.unpack) = x := by
  obtain ⟨⟨b, hb⟩⟩ := x
  have h := pack_unpack hb
  simp only [Float.Model.pack, Float.Model.unpack, h]

lemma unpack_toModel (x : Float) : x.toModel.unpack = (ofFloat x).unpacked :=
  unpack_eq_unpacked _

lemma exists_signed (x : Float) :
    ∃ s b, b < signBit ∧ x = signed s b ∧ ofFloat x = ofMagnitude s b := by
  refine ⟨_, _, Nat.mod_lt _ (by decide), ?_, rfl⟩
  have hw := word_split x.toBits.toNat_lt
  rw [word] at hw
  rw [signed, hw, UInt64.ofNat_toNat]
  exact (ofModel_pack_unpack x).symm

lemma signed_eq (s : Bool) {b : Nat} (h : b < signBit) :
    signed s b = Float.ofModel (.pack (ofMagnitude s b).unpacked) := by
  obtain ⟨hw, hs, hb⟩ := split_word s h
  have hn : (UInt64.ofNat (word s b)).toBitVec.toNat = word s b := Nat.mod_eq_of_lt hw
  have hu := unpack_eq_unpacked (UInt64.ofNat (word s b)).toBitVec
  rw [hn, hs, hb] at hu
  exact congrArg (Float.ofModel ∘ Float.Model.pack) hu

lemma ofFloat_signed (s : Bool) {b : Nat} (h : b ≤ infinity) :
    ofFloat (signed s b) = ofMagnitude s b := by
  have hlt : b < signBit := Nat.lt_of_le_of_lt h (by decide)
  obtain ⟨-, hs, hb⟩ := split_word s hlt
  have hn : (signed s b).toBits.toNat = word s b := by
    rw [signed_eq s hlt]
    exact toNat_pack_unpacked h
  rw [ofFloat, hn, hs, hb]

end QuantityCalculator.Double
