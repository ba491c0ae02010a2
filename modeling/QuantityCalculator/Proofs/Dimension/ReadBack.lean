import QuantityCalculator.Proofs.Dimension.Cuts

/-!
Reading back the text of a dimension. Main statement: a dimension with finite exponents is read from
its text, and a text with another exponent is refused.
-/

namespace QuantityCalculator

open Text Double Numeral Factor

variable {d acc : Dimension} {fs gs : List Factor} {f : Factor} {s : String} {c : Char}
  {us : List BaseUnit} {u w : BaseUnit}

namespace NamedUnit

lemma symbols_are_not_foreign : (all.all fun u => ¬ Foreign u.symbol.toList) = true := by
  decide +kernel

lemma ofSymbol?_of_foreign (h : Foreign s.toList) : ofSymbol? s = none := by
  rw [ofSymbol?_eq_none_iff]
  rintro ⟨-, u, hu, rfl⟩
  have hn := List.all_eq_true.mp symbols_are_not_foreign u hu
  simp [h] at hn

lemma ofSymbol?_of_mem (hc : c ∈ s.toList) (h : isLetter c = false) : ofSymbol? s = none := by
  rcases hu : ofSymbol? s with _ | u
  · rfl
  · have hl := (isLetter_of_ofSymbol? hu).2 c hc
    rw [h] at hl
    contradiction

lemma ofSymbol?_base (u : BaseUnit) : ofSymbol? u.symbol = some ⟨u.symbol, .ofBase u⟩ := by
  cases u <;> decide +kernel

end NamedUnit

namespace Factor

/-- The text of factors is never that of one unit. -/
lemma ofSymbol?_text (hf : f ∈ fs) :
    NamedUnit.ofSymbol? (String.ofList (fs.flatMap text)) = none := by
  have hi : (plain f.exponent).toList <:+: fs.flatMap text := by
    obtain ⟨l, r, rfl⟩ := List.append_of_mem hf
    refine ⟨l.flatMap text ++ f.symbol.toList, r.flatMap text, ?_⟩
    simp [text]
  by_cases hx : f.exponent.isFinite
  · obtain ⟨hn, hc⟩ := plain_finite hx
    obtain ⟨c, t, hp⟩ := List.exists_cons_of_ne_nil hn
    rw [hp] at hi hc
    apply NamedUnit.ofSymbol?_of_mem (c := c) _ (hc c List.mem_cons_self)
    rw [String.toList_ofList]
    exact hi.subset List.mem_cons_self
  · by_cases hm : ofFloat f.exponent = .infinite true
    · have hp : (plain f.exponent).toList = ['-', 'i', 'n', 'f'] := by
        rw [plain, write, hm]
        rfl
      apply NamedUnit.ofSymbol?_of_mem (c := '-') _ rfl
      rw [hp] at hi
      rw [String.toList_ofList]
      exact hi.subset List.mem_cons_self
    · apply NamedUnit.ofSymbol?_of_foreign
      rw [String.toList_ofList]
      exact (foreign_plain hx hm).mono hi

end Factor

namespace Dimension

def factorsOf (d : Dimension) (us : List BaseUnit) : List Factor :=
  (us.map fun u => ⟨u.symbol, d.exponent u⟩).filter fun f => f.exponent != 0

def multiply (d : Dimension) (fs : List Factor) : Except UnitError Dimension :=
  fs.foldlM (fun d f => (ofFactor f).map (d * ·)) d

lemma multiply_cons_of_some {v : NamedUnit} (h : NamedUnit.ofSymbol? f.symbol = some v) :
    multiply acc (f :: fs) = multiply (acc * v.dimension.power f.exponent) fs := by
  rw [multiply, List.foldlM_cons, ofFactor, h]
  rfl

lemma multiply_cons_of_none (h : NamedUnit.ofSymbol? f.symbol = none) :
    multiply acc (f :: fs) = .error (.unknownSymbol f.symbol) := by
  rw [multiply, List.foldlM_cons, ofFactor, h]
  rfl

lemma multiply_of_foreign (h : ∃ f ∈ fs, Foreign f.symbol.toList) (acc : Dimension) :
    ∃ s, multiply acc fs = .error (.unknownSymbol s) := by
  induction fs generalizing acc with
  | nil => simp at h
  | cons f fs ih =>
    rcases hv : NamedUnit.ofSymbol? f.symbol with _ | v
    · exact ⟨_, multiply_cons_of_none hv⟩
    · have hn : ¬ Foreign f.symbol.toList := fun hf => by
        rw [NamedUnit.ofSymbol?_of_foreign hf] at hv
        contradiction
      rw [multiply_cons_of_some hv]
      exact ih (by simpa [hn] using h) _

lemma exponent_times (acc : Dimension) (x : Float) (u w : BaseUnit) :
    (acc * (ofBase u).power x).exponent w = acc.exponent w + (if w = u then 1 else 0) * x := by
  rw [exponent_mul, exponent_power, ofBase, exponent_ofExponents]

lemma same_times {x : Float} (hx : x.isFinite) (hw : w ≠ u) :
    Same ((acc * (ofBase u).power x).exponent w) (acc.exponent w) := by
  rw [exponent_times, if_neg hw]
  exact same_add _ (Double.zero_mul hx)

lemma exponent_times_self {x : Float} (hx : x.isFinite) (hz : ¬ IsZero x)
    (hu : IsZero (acc.exponent u)) : (acc * (ofBase u).power x).exponent u = x := by
  rw [exponent_times, if_pos rfl, Double.one_mul hx, hu.add_eq hz]

lemma factorsOf_cons_of_isZero (h : IsZero (d.exponent u)) (us : List BaseUnit) :
    d.factorsOf (u :: us) = d.factorsOf us := by
  have hn : ¬ (d.exponent u != 0) := by simp [bne, beq_zero_iff.mpr h]
  exact List.filter_cons_of_neg hn

lemma factorsOf_cons (h : ¬ IsZero (d.exponent u)) (us : List BaseUnit) :
    d.factorsOf (u :: us) = ⟨u.symbol, d.exponent u⟩ :: d.factorsOf us := by
  have hn : (d.exponent u != 0) := by simpa [bne] using mt beq_zero_iff.mp h
  exact List.filter_cons_of_pos hn

lemma multiply_factorsOf (hd : ∀ u, (d.exponent u).isFinite) (hu : us.Nodup)
    (hz : ∀ u ∈ us, IsZero (acc.exponent u)) :
    ∃ v, multiply acc (d.factorsOf us) = .ok v ∧
      ∀ w, (w ∈ us → Same (v.exponent w) (d.exponent w)) ∧
        (w ∉ us → Same (v.exponent w) (acc.exponent w)) := by
  -- The units that are still to come have no power yet, so that each is set once.
  induction us generalizing acc with
  | nil => exact ⟨acc, rfl, fun w => ⟨nofun, fun _ => .inl rfl⟩⟩
  | cons u us ih =>
    obtain ⟨hnot, hu⟩ := List.nodup_cons.mp hu
    have hacc := hz u List.mem_cons_self
    have hz := fun w hw => hz w (List.mem_cons_of_mem _ hw)
    by_cases he : IsZero (d.exponent u)
    · obtain ⟨v, hv, hs⟩ := ih hu hz
      refine ⟨v, factorsOf_cons_of_isZero he us ▸ hv, fun w => ⟨fun hw => ?_, fun hw => ?_⟩⟩
      · rcases List.mem_cons.mp hw with rfl | hw
        · exact .inr ⟨((hs w).2 hnot).isZero hacc, he⟩
        · exact (hs w).1 hw
      · exact (hs w).2 fun h => hw (List.mem_cons_of_mem _ h)
    · have hother : ∀ w ≠ u, Same ((acc * (ofBase u).power (d.exponent u)).exponent w)
          (acc.exponent w) := fun w hw => same_times (hd u) hw
      have hne : ∀ w ∈ us, w ≠ u := fun w hw h => hnot (h ▸ hw)
      obtain ⟨v, hv, hs⟩ := ih hu fun w hw => (hother w (hne w hw)).isZero (hz w hw)
      refine ⟨v, ?_, fun w => ⟨fun hw => ?_, fun hw => ?_⟩⟩
      · rw [factorsOf_cons he, multiply_cons_of_some (NamedUnit.ofSymbol?_base u), hv]
      · rcases List.mem_cons.mp hw with rfl | hw
        · have h := (hs w).2 hnot
          rwa [exponent_times_self (hd w) he hacc] at h
        · exact (hs w).1 hw
      · rw [List.mem_cons, not_or] at hw
        exact ((hs w).2 hw.2).trans (hother w hw.1)

lemma letters_symbol (u : BaseUnit) :
    u.symbol.toList ≠ [] ∧ ∀ c ∈ u.symbol.toList, isLetter c := by
  refine ⟨by cases u <;> simp [BaseUnit.symbol], List.all_eq_true.mp ?_⟩
  cases u <;> rfl

lemma spelled_factors (d : Dimension) : Spelled d.factors := by
  intro f hf
  obtain ⟨hf, -⟩ := List.mem_filter.mp hf
  obtain ⟨u, -, rfl⟩ := List.mem_map.mp hf
  exact letters_symbol u

lemma mem_factors {u : BaseUnit} (h : ¬ IsZero (d.exponent u)) :
    ⟨u.symbol, d.exponent u⟩ ∈ d.factors := by
  have hn : (d.exponent u != 0) := by simpa [bne] using mt beq_zero_iff.mp h
  exact List.mem_filter.mpr ⟨List.mem_map_of_mem (BaseUnit.mem_all u), hn⟩

lemma isZero_of_factors (h : d.factors = []) (u : BaseUnit) : IsZero (d.exponent u) := by
  by_contra hn
  have hm := mem_factors hn
  rw [h] at hm
  contradiction

lemma exponents_factors {P : Float → Prop} (h : ∀ u, P (d.exponent u)) :
    ∀ f ∈ d.factors, P f.exponent := by
  intro f hf
  obtain ⟨hf, -⟩ := List.mem_filter.mp hf
  obtain ⟨u, -, rfl⟩ := List.mem_map.mp hf
  exact h u

lemma toList_compound (d : Dimension) : d.compound.toList = d.factors.flatMap text := by
  rw [compound, String.toList_join, List.flatMap_map]
  congr 1
  funext f
  rw [String.toList_append, text]

lemma ofSymbol?_compound (d : Dimension) : NamedUnit.ofSymbol? d.compound = none := by
  have hc : d.compound = String.ofList (d.factors.flatMap text) := by
    rw [← toList_compound, String.ofList_toList]
  rcases hf : d.factors with _ | ⟨f, fs⟩
  · rw [hc, hf]
    rfl
  · rw [hc, hf]
    exact ofSymbol?_text List.mem_cons_self

lemma split_eq (d : Dimension) : split d.compound = (cuts [] d.factors).mapM ofSegment := by
  have hs : segments ([] ++ d.factors.flatMap text) = cuts [] d.factors :=
    segments_text nofun d.spelled_factors
  rw [List.nil_append] at hs
  rw [split, toList_compound, hs]

lemma parse_compound (d : Dimension) : parse d.compound = split d.compound >>= ofFactors := by
  rw [parse, ofSymbol?_compound]

lemma split_compound (hd : ∀ u, (d.exponent u).isFinite) : split d.compound = .ok d.factors := by
  rw [split_eq]
  exact mapM_cuts d.spelled_factors (exponents_factors (P := (·.isFinite = true)) hd)

lemma ofFactors_factors (hd : ∀ u, (d.exponent u).isFinite) :
    ∃ v, ofFactors d.factors = .ok v ∧ ∀ u, Same (v.exponent u) (d.exponent u) := by
  have hz : ∀ u ∈ BaseUnit.all, IsZero (dimensionless.exponent u) := by
    intro u _
    rw [exponent_dimensionless]
    exact isZero_zero
  obtain ⟨v, hv, hsame⟩ := multiply_factorsOf hd (by decide) hz
  exact ⟨v, hv, fun u => (hsame u).1 (BaseUnit.mem_all u)⟩

lemma agrees_of_same {v : Dimension} (hd : ∀ u, (d.exponent u).isFinite)
    (h : ∀ u, Same (v.exponent u) (d.exponent u)) : v.agrees d :=
  (agrees_iff v d).mpr fun u => (h u).beq (hd u)

lemma parse_of_finite (hd : ∀ u, (d.exponent u).isFinite) :
    ∃ v, parse d.compound = .ok v ∧ v.agrees d := by
  obtain ⟨v, hv, hs⟩ := ofFactors_factors hd
  refine ⟨v, ?_, agrees_of_same hd hs⟩
  rw [parse_compound, split_compound hd]
  exact hv

/-- A dimension is read back from its text if its exponents are finite. If one is a negative
infinity the text is refused for a bare minus, and else for a symbol that no unit has. -/
theorem read_back (d : Dimension) :
    ((∀ u, (d.exponent u).isFinite) → ∃ v, parse d.compound = .ok v ∧ v.agrees d) ∧
    ((∃ u, ofFloat (d.exponent u) = .infinite true) →
      parse d.compound = .error (.invalidExponent "-")) ∧
    ((∀ u, ofFloat (d.exponent u) ≠ .infinite true) → (∃ u, ¬ (d.exponent u).isFinite) →
      ∃ s, parse d.compound = .error (.unknownSymbol s)) := by
  have hs := d.spelled_factors
  refine ⟨parse_of_finite, fun ⟨u, hu⟩ => ?_, fun hm ⟨u, hu⟩ => ?_⟩
  · have hn : ¬ IsZero (d.exponent u) := by
      rintro ⟨t, ht⟩
      rw [unpack_toModel, hu] at ht
      contradiction
    rw [parse_compound, split_eq, mapM_cuts_of_minus hs ⟨_, mem_factors hn, hu⟩]
    rfl
  · have hn : ¬ IsZero (d.exponent u) := fun h => hu h.isFinite
    have hm : ∀ f ∈ d.factors, ofFloat f.exponent ≠ .infinite true :=
      exponents_factors (P := (ofFloat · ≠ .infinite true)) hm
    obtain ⟨gs, hg, hfor⟩ := mapM_cuts_of_foreign hs hm []
    rw [parse_compound, split_eq, hg]
    exact multiply_of_foreign (hfor (.inr ⟨_, mem_factors hn, hu⟩)) dimensionless

theorem three_texts_are_read :
    (∃ v, parse (compound { second := -2.5, metre := 3 }) = .ok v ∧
      v.agrees { second := -2.5, metre := 3 }) ∧
    parse (compound { second := signed false infinity, metre := signed true infinity }) =
      .error (.invalidExponent "-") ∧
    ∃ s, parse (compound { second := signed false infinity, metre := 3 }) =
      .error (.unknownSymbol s) := by
  refine ⟨(read_back _).1 ?_, (read_back _).2.1 ⟨.metre, by decide +kernel⟩,
    (read_back _).2.2 ?_ ⟨.second, by decide +kernel⟩⟩
  · intro u
    cases u <;> decide +kernel
  · intro u
    cases u <;> decide +kernel

end Dimension

end QuantityCalculator
