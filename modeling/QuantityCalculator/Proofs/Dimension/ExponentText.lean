import QuantityCalculator.Dimension.Display
import QuantityCalculator.Proofs.Number.Figures
import QuantityCalculator.Proofs.Number.Hundredths

/-!
The texts of exponents. Main statement: those of integers whose hundredfold is below `2 ^ 59` differ.
-/

namespace QuantityCalculator

open Numeral

namespace Factor

variable {x y : Float} {s t : List Char}

/-- What is displayed behind a symbol. -/
def suffix (x : Float) : List Char :=
  if x == 1 then [] else (superscript (exponentText x)).toList

lemma figures_exponentText (x : Float) : Figures (exponentText x).toList := by
  rw [exponentText]
  split
  · exact figures_integer _
  · exact figures_plain _

lemma raised_injective : (figures.all fun c => figures.all fun d => raised c = raised d → c = d) =
    true := by
  decide

lemma map_raised_injective (hs : Figures s) (ht : Figures t) (h : s.map raised = t.map raised) :
    s = t := by
  induction s generalizing t with
  | nil => exact (List.map_eq_nil_iff.mp h.symm).symm
  | cons c s ih =>
    obtain ⟨d, t, rfl, hd, hr⟩ := List.map_eq_cons_iff.mp h.symm
    obtain ⟨hc, hs⟩ := figures_cons.mp hs
    obtain ⟨hd', ht⟩ := figures_cons.mp ht
    have hi := List.all_eq_true.mp (List.all_eq_true.mp raised_injective c hc) d hd'
    rw [of_decide_eq_true hi hd.symm, ih hs ht hr.symm]

lemma integer_ne_empty (n : Int) : integer n ≠ "" := by
  simp [integer]

lemma plain_ne_empty (x : Float) : plain x ≠ "" := by
  rw [plain, write]
  split
  · decide
  · simp
  · next s m e _ =>
    obtain ⟨c, r, hc, -⟩ := (positional_positional (Decimal.ofBinary m e).shortest).head
    simp [hc]

lemma exponentText_ne_empty (x : Float) : exponentText x ≠ "" := by
  rw [exponentText]
  split
  · exact integer_ne_empty _
  · exact plain_ne_empty _

lemma exponentText_of_isZero (h : Double.IsZero x) : exponentText x = "0" := by
  obtain ⟨t, ht⟩ := h
  rw [← Double.ofModel_pack_unpack x, ht]
  cases t <;> decide +kernel

lemma exponentText_of_same (h : Double.Same x y) : exponentText x = exponentText y := by
  obtain rfl | ⟨hx, hy⟩ := h
  · rfl
  · rw [exponentText_of_isZero hx, exponentText_of_isZero hy]

lemma exponentText_of_beq (h : x == y) : exponentText x = exponentText y :=
  exponentText_of_same (Double.beq_iff.mp h).1

lemma suffix_eq_nil_iff : suffix x = [] ↔ x == 1 := by
  rw [suffix]
  split
  · next h => exact iff_of_true rfl h
  · next h =>
    refine iff_of_false ?_ h
    simpa [superscript] using exponentText_ne_empty x

lemma exponentText_of_suffix (h : suffix x = suffix y) : exponentText x = exponentText y := by
  by_cases hx : x == 1
  · have hy := suffix_eq_nil_iff.mp (h ▸ suffix_eq_nil_iff.mpr hx)
    exact exponentText_of_beq (Double.beq_trans hx (Double.beq_symm hy))
  · have hy : ¬ y == 1 := fun hy => hx (suffix_eq_nil_iff.mp (h ▸ suffix_eq_nil_iff.mpr hy))
    rw [suffix, suffix, if_neg hx, if_neg hy, superscript, superscript, String.toList_ofList,
      String.toList_ofList] at h
    exact String.toList_inj.mp (map_raised_injective (figures_exponentText x)
      (figures_exponentText y) h)

end Factor

open Factor

namespace Double

variable {x y : Float} {s t : Bool} {n m : Nat}

lemma Reads.read_exponentText {c : ℚ} (hz : Reads (hundredths x) s c) (hc : 0 < c)
    (hc' : c < 2 ^ 63) : Numeral.read (exponentText x) = some (hundredths x) := by
  rw [exponentText]
  split
  · next k hk =>
    obtain ⟨t, n, hr, rfl⟩ := reads_of_integer? hk
    obtain ⟨-, rfl⟩ := hz.congr hr
    have hn : n < 2 ^ 63 := by exact_mod_cast hc'
    rw [clamp_eq (by rwa [natAbs_withSign])]
    exact hr.read_integer (Nat.cast_pos.mp hc)
  · exact Numeral.read_plain hz.isFinite

lemma Reads.read_integer_exponent (hx : Reads x s n) (hn : 0 < n) (hn' : 100 * n < 2 ^ 59) :
    Numeral.read (exponentText x) = some (hundredths x) := by
  obtain ⟨l, l', c, N, hN, hc, hz⟩ := hx.reads_hundredths hn hn'
  have hn' : (100 * n : ℚ) < 2 ^ 59 := by exact_mod_cast hn'
  have h₁ := abs_le.mp (product_error hN hn')
  have h₂ := abs_le.mp (hc.error_le (quotient_place hN hc hn'))
  norm_num at hn' h₁ h₂
  refine hz.read_exponentText hc.pos ?_
  norm_num
  linarith

lemma Reads.eq_of_exponentText (hx : Reads x s n) (hn : 0 < n) (hn' : 100 * n < 2 ^ 59)
    (hy : Reads y t m) (hm : 0 < m) (hm' : 100 * m < 2 ^ 59)
    (h : exponentText x = exponentText y) : x = y := by
  have he : hundredths x = hundredths y := by
    have hr := hx.read_integer_exponent hn hn'
    rw [h, hy.read_integer_exponent hm hm'] at hr
    exact (Option.some.inj hr).symm
  obtain ⟨l, l', c, N, hN, hc, hz⟩ := hx.reads_hundredths hn hn'
  obtain ⟨k, k', d, M, hM, hd, hw⟩ := hy.reads_hundredths hm hm'
  obtain ⟨rfl, rfl⟩ := hz.congr (he ▸ hw)
  obtain rfl := eq_of_hundredths hN hc (by exact_mod_cast hn') hM hd (by exact_mod_cast hm')
  exact (hx.eq_signed hn).trans (hy.eq_signed hn).symm

lemma Reads.exponentText_ne_zero (hx : Reads x s n) (hn : 0 < n) (hn' : 100 * n < 2 ^ 59) :
    exponentText x ≠ "0" := by
  intro h
  have hr := hx.read_integer_exponent hn hn'
  have hz : Numeral.read "0" = some 0 := by decide +kernel
  rw [h, hz] at hr
  obtain ⟨l, l', c, N, hN, hc, hx⟩ := hx.reads_hundredths hn hn'
  exact hx.not_isZero hc.pos (Option.some.inj hr ▸ isZero_zero)

/-- An integer whose hundredfold is below `2 ^ 59`. -/
def IsSmallInteger (x : Float) : Prop :=
  ∃ k, integer? x = some k ∧ 100 * k.natAbs < 2 ^ 59

lemma IsSmallInteger.cases (h : IsSmallInteger x) :
    IsZero x ∨ ∃ s n, Reads x s (n : Nat) ∧ 0 < n ∧ 100 * n < 2 ^ 59 := by
  obtain ⟨k, hk, hb⟩ := h
  obtain ⟨s, n, hr, rfl⟩ := reads_of_integer? hk
  rw [natAbs_withSign] at hb
  rcases n with _ | n
  · exact .inl (Reads.isZero (by simpa using hr))
  · exact .inr ⟨s, n + 1, hr, n.succ_pos, hb⟩

lemma IsSmallInteger.beq_of_exponentText (hx : IsSmallInteger x) (hy : IsSmallInteger y)
    (h : exponentText x = exponentText y) : x == y := by
  obtain hx | ⟨s, n, hx, hn, hn'⟩ := hx.cases
  · obtain hy | ⟨t, m, hy, hm, hm'⟩ := hy.cases
    · exact hx.beq hy
    · exact absurd (h ▸ exponentText_of_isZero hx) (hy.exponentText_ne_zero hm hm')
  · obtain hy | ⟨t, m, hy, hm, hm'⟩ := hy.cases
    · exact absurd (h.trans (exponentText_of_isZero hy)) (hx.exponentText_ne_zero hn hn')
    · rw [hx.eq_of_exponentText hn hn' hy hm hm' h]
      exact beq_self hy.isFinite

end Double

end QuantityCalculator
