import QuantityCalculator.Proofs.Number.Neutral

/-!
Comparing doubles. Main statements: a double is a NaN, zero, positive or negative, and only one of them;
two are equal if they are the same and not a NaN, where the sign of a zero does not count.
-/

namespace QuantityCalculator.Double

open Float.Model Float.Model.UnpackedFloat

variable {x y z : Float} {u v : UnpackedFloat}

lemma decide_lt (x y : Float) : decide (x < y) = x.toModel.unpack.lt y.toModel.unpack := by
  change decide (decide (x.toModel < y.toModel) = true) = _
  rw [Bool.decide_eq_true]
  exact Bool.decide_eq_true

lemma sides (x : Float) :
    (x.isNaN ∧ (x == 0) = false ∧ ¬ 0 < x ∧ ¬ x < 0) ∨
    (¬ x.isNaN ∧ x == 0 ∧ ¬ 0 < x ∧ ¬ x < 0) ∨
    (¬ x.isNaN ∧ (x == 0) = false ∧ 0 < x ∧ ¬ x < 0) ∨
    (¬ x.isNaN ∧ (x == 0) = false ∧ ¬ 0 < x ∧ x < 0) := by
  have h : (x.toModel.unpack.isNaN, x.toModel.unpack.beq (.zero .positive),
      (UnpackedFloat.zero .positive).lt x.toModel.unpack, x.toModel.unpack.lt (.zero .positive)) ∈
        [(true, false, false, false), (false, true, false, false), (false, false, true, false),
          (false, false, false, true)] := by
    cases x.toModel.unpack with
    | notANumber => decide
    | infinity t => cases t <;> decide
    | zero t => exact List.mem_of_elem_eq_true rfl
    | finite t => cases t <;> exact List.mem_of_elem_eq_true rfl
  rw [← unpack_zero, ← decide_lt, ← decide_lt] at h
  change (x.isNaN, x == 0, _, _) ∈ _ at h
  simpa using h

lemma ne_zero_of_pos (h : 0 < x) : (x != 0) = true := by
  rcases sides x with hs | hs | hs | hs <;> simp_all [bne]

lemma ne_zero_of_neg (h : x < 0) : (x != 0) = true := by
  rcases sides x with hs | hs | hs | hs <;> simp_all [bne]

lemma neg_iff (h : ¬ x.isNaN) : x < 0 ↔ (x != 0) = true ∧ ¬ 0 < x := by
  rcases sides x with hs | hs | hs | hs <;> simp_all [bne]

lemma sides_of_nan (h : x.isNaN) : (x != 0) = true ∧ ¬ 0 < x ∧ ¬ x < 0 := by
  rcases sides x with hs | hs | hs | hs <;> simp_all [bne]

lemma eq_of_unpacked_beq (h : u.beq v) : u = v ∨ ∃ s t, u = .zero s ∧ v = .zero t := by
  have hc : u.compare v = some .eq := by simpa [UnpackedFloat.beq] using h
  cases u with
  | notANumber => simp [UnpackedFloat.compare] at hc
  | zero s => cases v with
    | zero t => exact .inr ⟨s, t, rfl, rfl⟩
    | notANumber => simp [UnpackedFloat.compare] at hc
    | infinity t => cases t <;> simp [UnpackedFloat.compare] at hc
    | finite t => cases t <;> simp [UnpackedFloat.compare] at hc
  | infinity s => cases v with
    | infinity t => cases s <;> cases t <;> first | exact .inl rfl | contradiction
    | notANumber => simp [UnpackedFloat.compare] at hc
    | _ => cases s <;> simp [UnpackedFloat.compare] at hc
  | finite s m e hm => cases v with
    | notANumber => simp [UnpackedFloat.compare] at hc
    | infinity t => cases t <;> simp [UnpackedFloat.compare] at hc
    | zero t => cases s <;> simp [UnpackedFloat.compare] at hc
    | finite t n f hn =>
      left
      cases s <;> cases t <;> simp_all [UnpackedFloat.compare, Ordering.then_eq_eq]

lemma unpacked_beq_self (h : u.isNaN = false) : u.beq u := by
  cases u with
  | notANumber => contradiction
  | infinity t => cases t <;> rfl
  | zero => rfl
  | finite t => cases t <;> simp [UnpackedFloat.beq, UnpackedFloat.compare]

lemma isNaN_of_unpacked_beq (h : u.beq v) : u.isNaN = false := by
  cases u with
  | notANumber => contradiction
  | _ => rfl

lemma beq_iff : x == y ↔ Same x y ∧ x.isNaN = false := by
  constructor
  · intro h
    refine ⟨?_, isNaN_of_unpacked_beq h⟩
    obtain hu | ⟨s, t, hs, ht⟩ := eq_of_unpacked_beq h
    · exact .inl (by rw [← ofModel_pack_unpack x, hu, ofModel_pack_unpack])
    · exact .inr ⟨⟨s, hs⟩, ⟨t, ht⟩⟩
  · rintro ⟨rfl | ⟨hx, hy⟩, hn⟩
    · exact unpacked_beq_self hn
    · exact hx.beq hy

lemma Same.symm (h : Same x y) : Same y x :=
  h.imp Eq.symm And.symm

lemma beq_symm (h : x == y) : y == x := by
  obtain ⟨rfl | ⟨hx, hy⟩, -⟩ := beq_iff.mp h
  · exact h
  · exact hy.beq hx

lemma beq_trans (h : x == y) (h' : y == z) : x == z :=
  beq_iff.mpr ⟨(beq_iff.mp h).1.trans (beq_iff.mp h').1, (beq_iff.mp h).2⟩

end QuantityCalculator.Double
