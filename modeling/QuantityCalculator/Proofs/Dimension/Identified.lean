import QuantityCalculator.Dimension.Compound
import QuantityCalculator.Proofs.Dimension.ExponentText
import QuantityCalculator.Proofs.Dimension.Mentions

/-!
What the displayed text of a dimension says about its exponents. Main statement: each of them can be
told from it as far as it is written.
-/

namespace QuantityCalculator

open Text Factor Double

namespace Dimension

variable {a b : Dimension}

lemma display_of_named {v : NamedUnit} (h : NamedUnit.ofDimension? a = some v) :
    a.display = v.symbol := by
  rw [display, h]

lemma exponentText_of_agrees (h : a.agrees b) (u : BaseUnit) :
    exponentText (a.exponent u) = exponentText (b.exponent u) :=
  exponentText_of_beq ((agrees_iff a b).mp h u)

lemma agrees_symm (h : a.agrees b) : b.agrees a :=
  (agrees_iff b a).mpr fun u => Double.beq_symm ((agrees_iff a b).mp h u)

lemma agrees_trans {c : Dimension} (h : a.agrees b) (h' : b.agrees c) : a.agrees c :=
  (agrees_iff a c).mpr fun u => Double.beq_trans ((agrees_iff a b).mp h u) ((agrees_iff b c).mp h' u)

lemma mem_readings {u : BaseUnit} {s : List Char} (ha : NamedUnit.ofDimension? a = none) :
    (u, s) ∈ readings a.display.toList ↔ ¬ Double.IsZero (a.exponent u) ∧ suffix (a.exponent u) = s := by
  rw [readings_displayed ha, List.mem_map]
  constructor
  · rintro ⟨v, hv, he⟩
    cases he
    exact ⟨by simpa [bne, ← Double.beq_zero_iff] using mem_units.mp hv, rfl⟩
  · rintro ⟨hz, rfl⟩
    exact ⟨u, mem_units.mpr (by simpa [bne, ← Double.beq_zero_iff] using hz), rfl⟩

lemma exponentText_of_expansion (ha : NamedUnit.ofDimension? a = none)
    (hb : NamedUnit.ofDimension? b = none) (h : a.display = b.display) (u : BaseUnit) :
    exponentText (a.exponent u) = exponentText (b.exponent u) := by
  have hm (s : List Char) := (mem_readings (u := u) (s := s) ha).symm.trans
    (h ▸ mem_readings (u := u) (s := s) hb)
  by_cases hz : Double.IsZero (a.exponent u)
  · have hz' : Double.IsZero (b.exponent u) := by
      by_contra hn
      exact ((hm _).mpr ⟨hn, rfl⟩).1 hz
    rw [exponentText_of_isZero hz, exponentText_of_isZero hz']
  · exact (exponentText_of_suffix ((hm _).mp ⟨hz, rfl⟩).2).symm

lemma symbols_readings : (NamedUnit.all.all fun v => readings v.symbol.toList = [] ∨
    BaseUnit.all.any fun u => v.dimension = .ofBase u ∧ readings v.symbol.toList = [(u, [])]) =
      true := by
  decide +kernel

lemma not_agrees_of_ofDimension? {v : NamedUnit} (ha : NamedUnit.ofDimension? a = none)
    (hv : v ∈ NamedUnit.all) : ¬ v.dimension.agrees a := by
  simpa using List.find?_eq_none.mp ha v hv

/-- What has no symbol of its own is not displayed as the symbol of something else. -/
lemma display_ne_symbol {v : NamedUnit} (ha : NamedUnit.ofDimension? a = none)
    (hv : v ∈ NamedUnit.all) : a.display ≠ v.symbol := by
  intro h
  have hr := of_decide_eq_true (List.all_eq_true.mp symbols_readings v hv)
  rw [← h] at hr
  obtain hr | hr := hr
  · have hd : a.isDimensionless := isDimensionless_of_units (by
      rw [← mentions_display ha, mentions, hr]
      rfl)
    cases (ofDimension?_of_isDimensionless hd).symm.trans ha
  · obtain ⟨u, -, hu⟩ := List.any_eq_true.mp hr
    obtain ⟨hu, hr⟩ := of_decide_eq_true hu
    refine not_agrees_of_ofDimension? ha hv ((agrees_iff _ a).mpr fun w => ?_)
    rw [hu, ofBase, exponent_ofExponents]
    have hm (s : List Char) := mem_readings (u := w) (s := s) ha
    rw [hr] at hm
    split
    · next hw =>
      subst hw
      exact Double.beq_symm (suffix_eq_nil_iff.mp ((hm []).mp (by simp)).2)
    · next hw =>
      refine Double.isZero_zero.beq ?_
      by_contra hz
      simpa [hw] using (hm _).mpr ⟨hz, rfl⟩

lemma exponentText_of_display (h : a.display = b.display) (u : BaseUnit) :
    exponentText (a.exponent u) = exponentText (b.exponent u) := by
  cases ha : NamedUnit.ofDimension? a with
  | none =>
    cases hb : NamedUnit.ofDimension? b with
    | none => exact exponentText_of_expansion ha hb h u
    | some w =>
      rw [display_of_named hb] at h
      exact absurd h (display_ne_symbol ha (of_ofDimension? hb).1)
  | some v =>
    obtain ⟨hv, hva⟩ := of_ofDimension? ha
    rw [display_of_named ha] at h
    cases hb : NamedUnit.ofDimension? b with
    | none => exact absurd h.symm (display_ne_symbol hb hv)
    | some w =>
      obtain ⟨hw, hwb⟩ := of_ofDimension? hb
      rw [display_of_named hb] at h
      obtain rfl := NamedUnit.eq_of_symbol_eq hv hw h
      exact exponentText_of_agrees (agrees_trans (agrees_symm hva) hwb) u

lemma agrees_of_display (ha : ∀ u, IsSmallInteger (a.exponent u))
    (hb : ∀ u, IsSmallInteger (b.exponent u)) (h : a.display = b.display) : a.agrees b :=
  (agrees_iff a b).mpr fun u => (ha u).beq_of_exponentText (hb u) (exponentText_of_display h u)

/-- The text of a dimension tells how each of its exponents is written. Where they are integers whose
hundredfold is below `2 ^ 59` it tells the dimension, and two that do not agree are reported with
different texts. -/
theorem display_identifies (a b : Dimension) :
    (a.display = b.display → ∀ u, exponentText (a.exponent u) = exponentText (b.exponent u)) ∧
    ((∀ u, IsSmallInteger (a.exponent u)) → (∀ u, IsSmallInteger (b.exponent u)) →
      (a.display = b.display → a.agrees b) ∧
      ∀ l r, a.common b = .error (.mismatch l r) → l.display ≠ r.display) := by
  refine ⟨exponentText_of_display, fun ha hb => ⟨agrees_of_display ha hb, ?_⟩⟩
  intro l r he hd
  rw [common] at he
  split at he
  · contradiction
  · next hn =>
    cases he
    exact hn (agrees_of_display ha hb hd)

theorem area_and_volume_are_told_apart : let a : Dimension := { metre := 2 }
    let b : Dimension := { metre := 3, second := -0.0 }
    (∀ u, IsSmallInteger (a.exponent u)) ∧ (∀ u, IsSmallInteger (b.exponent u)) ∧
      a.common b = .error (.mismatch a b) ∧ a.display ≠ b.display := by
  intro a b
  have hz : IsSmallInteger 0 := ⟨0, by decide +kernel, by decide⟩
  have ha : ∀ u, IsSmallInteger (a.exponent u) := by
    intro u
    cases u with
    | metre => exact ⟨2, by decide +kernel, by decide⟩
    | _ => exact hz
  have hb : ∀ u, IsSmallInteger (b.exponent u) := by
    intro u
    cases u with
    | metre => exact ⟨3, by decide +kernel, by decide⟩
    | second => exact ⟨0, by decide +kernel, by decide⟩
    | _ => exact hz
  have he : a.common b = .error (.mismatch a b) := by decide +kernel
  exact ⟨ha, hb, he, ((display_identifies a b).2 ha hb).2 a b he⟩

/-- Different integers that are written alike: both sides of the first pair are cut to 64 bits, and
those of the second are taken for each other when they are rounded to two places. -/
theorem large_exponents_are_displayed_alike :
    (let a : Dimension := { metre := 1e19 }
    let b : Dimension := { metre := 1e20 }
    Double.integer? a.metre = some (10 ^ 19) ∧ Double.integer? b.metre = some (10 ^ 20) ∧
      a.display = b.display ∧ a.agrees b = false ∧ a.common b = .error (.mismatch a b)) ∧
    (let a : Dimension := { metre := 5764607523034246 }
    let b : Dimension := { metre := 5764607523034247 }
    Double.integer? a.metre = some 5764607523034246 ∧
      Double.integer? b.metre = some 5764607523034247 ∧
      a.display = b.display ∧ a.agrees b = false ∧ a.common b = .error (.mismatch a b)) := by
  decide +kernel

end Dimension

end QuantityCalculator
