import QuantityCalculator.Proofs.Dimension.ExponentText
import QuantityCalculator.Proofs.Evaluation.Dimensionless

/-!
The base units that the texts of a dimension name. Main statement: both texts name those of the
dimension, but for the ones with a NaN, which are typeset nowhere.
-/

namespace QuantityCalculator

open Numeral

/-- The base unit whose symbol a word begins with, the longer symbol where two do. -/
def BaseUnit.named (w : List Char) : Option BaseUnit :=
  if mole.symbol.toList <+: w then some mole else all.find? (·.symbol.toList <+: w)

namespace Text

def separates (c : Char) : Bool :=
  c ∈ [' ', '\x7b', '\x7d', '^', '\\']

/-- The base units that the words of a text name, each with what stands behind its symbol. -/
def readings (s : List Char) : List (BaseUnit × List Char) :=
  (s.splitOnP separates).filterMap fun w =>
    (BaseUnit.named w).map fun u => (u, w.drop u.symbol.toList.length)

def mentions (s : String) : List BaseUnit :=
  (readings s.toList).map Prod.fst

variable {s w : List Char} {c : Char} {u : BaseUnit}

lemma readings_append (s t : List Char) (hc : separates c) :
    readings (s ++ c :: t) = readings s ++ readings t := by
  rw [readings, List.splitOnP_append_cons _ _ hc, List.filterMap_append, readings, readings]

lemma readings_cons (t : List Char) (hc : separates c) : readings (c :: t) = readings t :=
  readings_append [] t hc

lemma readings_intercalate (ts : List (List Char)) :
    readings ([' '].intercalate ts) = ts.flatMap readings := by
  induction ts with
  | nil => rfl
  | cons t ts ih =>
    rcases ts with _ | ⟨u, ts⟩
    · simp
    · rw [List.intercalate_cons_cons, List.append_assoc, List.singleton_append,
        readings_append _ _ rfl, ih]
      rfl

lemma named_symbol (u : BaseUnit) (hw : ∀ c ∈ w.head?, c ≠ 'o') :
    BaseUnit.named (u.symbol.toList ++ w) = some u := by
  rcases w with _ | ⟨c, w⟩
  · cases u <;> rfl
  · have hc := hw c rfl
    cases u <;> simp [BaseUnit.named, BaseUnit.symbol, BaseUnit.all, Ne.symm hc]

lemma not_separates_symbol (u : BaseUnit) : ∀ c ∈ u.symbol.toList, separates c = false := by
  have h : (BaseUnit.all.all fun u => u.symbol.toList.all (!separates ·)) = true := by decide
  have hu := List.all_eq_true.mp h u u.mem_all
  simpa using hu

lemma readings_symbol (u : BaseUnit) (hw : ∀ c ∈ w, separates c = false ∧ c ≠ 'o') :
    readings (u.symbol.toList ++ w) = [(u, w)] := by
  have hs : ∀ c ∈ u.symbol.toList ++ w, separates c = false := fun c hc =>
    (List.mem_append.mp hc).elim (not_separates_symbol u c) fun hc => (hw c hc).1
  have hn := named_symbol u fun c hc => (hw c (List.mem_of_mem_head? hc)).2
  rw [readings, List.splitOnP_eq_singleton hs]
  simp [hn]

lemma named_of_figures (h : Figures w) : BaseUnit.named w = none := by
  have hs : (BaseUnit.all.all fun u => u.symbol.toList.any (· ∉ figures)) = true := by decide
  have hp (u : BaseUnit) : ¬ u.symbol.toList <+: w := by
    intro hw
    obtain ⟨c, hc, hn⟩ := List.any_eq_true.mp (List.all_eq_true.mp hs u u.mem_all)
    exact of_decide_eq_true hn (h c (hw.subset hc))
  rw [BaseUnit.named, if_neg (hp .mole)]
  simpa using fun u _ => hp u

lemma readings_of_figures (h : Figures w) : readings w = [] := by
  have hf : (figures.all (!separates ·)) = true := by decide
  have hs : ∀ c ∈ w, separates c = false := fun c hc => by
    simpa using List.all_eq_true.mp hf c (h c hc)
  rw [readings, List.splitOnP_eq_singleton hs]
  simp [named_of_figures h]

end Text

open Text

namespace Factor

lemma raised_figures : (figures.all fun c => !separates (raised c) && raised c ≠ 'o') = true := by
  decide

lemma suffix_chars (x : Float) : ∀ c ∈ suffix x, separates c = false ∧ c ≠ 'o' := by
  intro c hc
  rw [suffix] at hc
  split at hc
  · contradiction
  · rw [superscript, String.toList_ofList] at hc
    obtain ⟨d, hd, rfl⟩ := List.mem_map.mp hc
    simpa using List.all_eq_true.mp raised_figures d (figures_exponentText x d hd)

lemma readings_display (u : BaseUnit) (x : Float) :
    readings (display ⟨u.symbol, x⟩).toList = [(u, suffix x)] := by
  have h : (display ⟨u.symbol, x⟩).toList = u.symbol.toList ++ suffix x := by
    rw [display, suffix]
    split <;> simp
  rw [h, readings_symbol u (suffix_chars x)]

lemma readings_latex (u : BaseUnit) (x : Float) :
    readings (latex ⟨u.symbol, x⟩).toList = [(u, [])] := by
  have hu : readings u.symbol.toList = [(u, [])] := by
    simpa using readings_symbol (w := []) u nofun
  have he := readings_of_figures (figures_exponentText x)
  rw [latex]
  split
  · exact hu
  · have ht : ("\x7b" ++ u.symbol ++ "\x7d^\x7b" ++ exponentText x ++ "\x7d").toList =
        '\x7b' :: (u.symbol.toList ++ '\x7d' :: '^' :: '\x7b' ::
          ((exponentText x).toList ++ ['\x7d'])) := by
      simp
    rw [ht, readings_cons _ rfl, readings_append _ _ rfl, readings_cons _ rfl, readings_cons _ rfl,
      readings_append _ _ rfl, hu, he]
    rfl

end Factor

open Factor

namespace Dimension

variable {d : Dimension}

/-- The base units whose exponents are as `p` says. -/
def units (d : Dimension) (p : Float → Bool) : List BaseUnit :=
  BaseUnit.all.filter fun u => p (d.exponent u)

lemma mem_units {p : Float → Bool} {u : BaseUnit} : u ∈ d.units p ↔ p (d.exponent u) := by
  simp [units, BaseUnit.mem_all]

lemma filter_units {p q : Float → Bool} (h : ∀ x, q x → p x) :
    (d.units p).filter (fun u => q (d.exponent u)) = d.units q := by
  rw [units, List.filter_filter]
  refine List.filter_congr fun u _ => ?_
  rw [Bool.eq_iff_iff, Bool.and_eq_true]
  exact ⟨And.left, fun hq => ⟨hq, h _ hq⟩⟩

lemma factors_eq (d : Dimension) :
    d.factors = (d.units (· != 0)).map fun u => ⟨u.symbol, d.exponent u⟩ := by
  rw [factors, List.filter_map]
  rfl

lemma numerator_eq (d : Dimension) :
    d.numerator = (d.units (0 < ·)).map fun u => ⟨u.symbol, d.exponent u⟩ := by
  have h := filter_units (d := d) (p := (· != 0)) (q := (0 < ·)) fun x h =>
    Double.ne_zero_of_pos (of_decide_eq_true h)
  rw [numerator, factors_eq, List.filter_map, ← h]
  rfl

lemma denominator_eq (d : Dimension) :
    d.denominator = (d.units (· < 0)).map fun u => ⟨u.symbol, (d.exponent u).abs⟩ := by
  have h := filter_units (d := d) (p := (· != 0)) (q := (· < 0)) fun x h =>
    Double.ne_zero_of_neg (of_decide_eq_true h)
  rw [denominator, factors_eq, List.filter_map, List.map_map, ← h]
  rfl

lemma readings_factors (us : List BaseUnit) (f : BaseUnit → Float) {text : Factor → String}
    {rest : Float → List Char}
    (h : ∀ u x, readings (text ⟨u.symbol, x⟩).toList = [(u, rest x)]) :
    readings (" ".intercalate ((us.map fun u => ⟨u.symbol, f u⟩).map text)).toList =
      us.map fun u => (u, rest (f u)) := by
  have hs : " ".toList = [' '] := rfl
  rw [String.toList_intercalate, hs, readings_intercalate]
  induction us with
  | nil => rfl
  | cons u us ih =>
    rw [List.map_cons, List.map_cons, List.map_cons, List.flatMap_cons, ih, h]
    rfl

lemma readings_displayed (h : NamedUnit.ofDimension? d = none) :
    readings d.display.toList = (d.units (· != 0)).map fun u => (u, suffix (d.exponent u)) := by
  rw [display, h, factors_eq]
  exact readings_factors _ _ readings_display

/-- The text with all above the line, if there is nothing below. -/
def fraction (top bottom : String) : String :=
  if bottom = "" then top
  else "\\frac\x7b" ++ (if top = "" then "1" else top) ++ "\x7d\x7b" ++ bottom ++ "\x7d"

lemma latex_eq (h : NamedUnit.ofDimension? d = none) :
    d.latex = fraction (" ".intercalate (d.numerator.map Factor.latex))
      (" ".intercalate (d.denominator.map Factor.latex)) := by
  rw [latex, h]
  rfl

lemma readings_fraction (top bottom : String) :
    readings (fraction top bottom).toList = readings top.toList ++ readings bottom.toList := by
  rw [fraction]
  split
  · next hb =>
    subst hb
    exact (List.append_nil _).symm
  · have ht : readings (if top = "" then "1" else top).toList = readings top.toList := by
      split
      · next h =>
        subst h
        decide
      · rfl
    generalize (if top = "" then "1" else top) = t at ht
    have hs : ("\\frac\x7b" ++ t ++ "\x7d\x7b" ++ bottom ++ "\x7d").toList =
        '\\' :: ("frac".toList ++ '\x7b' :: (t.toList ++ '\x7d' :: '\x7b' ::
          (bottom.toList ++ ['\x7d']))) := by
      simp
    have hf : readings "frac".toList = [] := by decide
    have hn : readings [] = [] := rfl
    rw [hs, readings_cons _ rfl, readings_append _ _ rfl, hf, readings_append _ _ rfl,
      readings_cons _ rfl, readings_append _ _ rfl, ht, hn, List.append_nil, List.nil_append]

lemma perm_iff : (d.units (0 < ·) ++ d.units (· < 0)).Perm (d.units (· != 0)) ↔
    ∀ u, ¬ (d.exponent u).isNaN := by
  constructor
  · intro h u hn
    obtain ⟨hz, hp, hm⟩ := Double.sides_of_nan hn
    have hu := h.mem_iff.mpr (mem_units.mpr hz)
    simp [mem_units, hp, hm] at hu
  · intro h
    have hp := filter_units (d := d) (p := (· != 0)) (q := (0 < ·)) fun x h =>
      Double.ne_zero_of_pos (of_decide_eq_true h)
    have hn : (d.units (· != 0)).filter (fun u => !decide (0 < d.exponent u)) = d.units (· < 0) := by
      rw [units, List.filter_filter, units]
      refine List.filter_congr fun u _ => ?_
      rw [Bool.eq_iff_iff]
      simpa [and_comm] using (Double.neg_iff (h u)).symm
    rw [← hp, ← hn]
    exact List.filter_append_perm _ _

lemma of_ofDimension? {v : NamedUnit} (h : NamedUnit.ofDimension? d = some v) :
    v ∈ NamedUnit.all ∧ v.dimension.agrees d :=
  ⟨List.mem_of_find?_eq_some h, by simpa using List.find?_some h⟩

lemma ofDimension?_of_isDimensionless (h : d.isDimensionless) :
    NamedUnit.ofDimension? d = some ⟨"", .dimensionless⟩ := by
  have ha := agrees_of_isDimensionless isDimensionless_dimensionless h
  rw [NamedUnit.ofDimension?, NamedUnit.all, List.cons_append, List.find?_cons_of_pos (by simpa using ha)]

lemma symbol_eq_empty_iff {v : NamedUnit} (h : NamedUnit.ofDimension? d = some v) :
    v.symbol = "" ↔ d.isDimensionless := by
  constructor
  · intro hs
    have hu : (NamedUnit.all.all fun v => v.symbol = "" → v.dimension = .dimensionless) = true := by
      decide
    obtain ⟨hm, ha⟩ := of_ofDimension? h
    have hd := of_decide_eq_true (List.all_eq_true.mp hu v hm) hs
    rw [isDimensionless, agrees_iff, ← hd]
    exact fun u => Double.beq_symm ((agrees_iff _ _).mp ha u)
  · intro hd
    cases (ofDimension?_of_isDimensionless hd).symm.trans h
    rfl

lemma isDimensionless_of_units (h : d.units (· != 0) = []) : d.isDimensionless := by
  refine isDimensionless_iff.mpr fun u => Double.beq_zero_iff.mp ?_
  have hu : u ∉ d.units (· != 0) := h ▸ List.not_mem_nil
  simpa [mem_units, bne] using hu

lemma mentions_top (d : Dimension) :
    mentions (" ".intercalate (d.numerator.map Factor.latex)) = d.units (0 < ·) := by
  rw [mentions, numerator_eq, readings_factors _ _ readings_latex, List.map_map]
  exact List.map_id _

lemma mentions_bottom (d : Dimension) :
    mentions (" ".intercalate (d.denominator.map Factor.latex)) = d.units (· < 0) := by
  rw [mentions, denominator_eq, readings_factors _ (fun u => (d.exponent u).abs) readings_latex,
    List.map_map]
  exact List.map_id _

lemma mentions_display (h : NamedUnit.ofDimension? d = none) :
    mentions d.display = d.units (· != 0) := by
  rw [mentions, readings_displayed h, List.map_map]
  exact List.map_id _

lemma mentions_latex (h : NamedUnit.ofDimension? d = none) :
    mentions d.latex = d.units (0 < ·) ++ d.units (· < 0) := by
  rw [latex_eq h, mentions, readings_fraction, List.map_append, ← mentions, ← mentions, mentions_top,
    mentions_bottom]

lemma display_eq_empty_iff (d : Dimension) : d.display = "" ↔ d.isDimensionless := by
  cases h : NamedUnit.ofDimension? d with
  | some v =>
    rw [← symbol_eq_empty_iff h, display, h]
  | none =>
    have hn : ¬ d.isDimensionless := fun hd => by
      cases (ofDimension?_of_isDimensionless hd).symm.trans h
    refine iff_of_false (fun he => hn (isDimensionless_of_units ?_)) hn
    rw [← mentions_display h, he]
    rfl

lemma latex_eq_empty_iff (hd : ∀ u, ¬ (d.exponent u).isNaN) : d.latex = "" ↔ d.isDimensionless := by
  cases h : NamedUnit.ofDimension? d with
  | some v =>
    rw [← symbol_eq_empty_iff h, latex, h]
    rfl
  | none =>
    have hn : ¬ d.isDimensionless := fun hd => by
      cases (ofDimension?_of_isDimensionless hd).symm.trans h
    refine iff_of_false (fun he => hn (isDimensionless_of_units ?_)) hn
    have hm : d.units (0 < ·) ++ d.units (· < 0) = [] := by
      rw [← mentions_latex h, he]
      rfl
    exact (hm ▸ perm_iff.mpr hd).nil_eq.symm

/-- A dimension without a symbol of its own is displayed by the base units of all exponents that are
not zero, and typeset as a fraction of those with a positive and those with a negative one. These are
the same units as long as no exponent is a NaN. -/
theorem texts_name_units (d : Dimension) :
    (NamedUnit.ofDimension? d = none →
      mentions d.display = d.units (· != 0) ∧
      (∃ top bottom, d.latex = fraction top bottom ∧ mentions top = d.units (0 < ·) ∧
        mentions bottom = d.units (· < 0)) ∧
      ((mentions d.latex).Perm (mentions d.display) ↔ ∀ u, ¬ (d.exponent u).isNaN)) ∧
    (d.display = "" ↔ d.isDimensionless) ∧
    ((∀ u, ¬ (d.exponent u).isNaN) → (d.latex = "" ↔ d.isDimensionless)) := by
  refine ⟨fun h => ⟨mentions_display h, ?_, ?_⟩, d.display_eq_empty_iff, latex_eq_empty_iff⟩
  · exact ⟨_, _, latex_eq h, d.mentions_top, d.mentions_bottom⟩
  · rw [mentions_latex h, mentions_display h]
    exact perm_iff

theorem acceleration_texts_name_units : let d : Dimension := { second := -2, metre := 1 }
    NamedUnit.ofDimension? d = none ∧ (∀ u, ¬ (d.exponent u).isNaN) ∧
      mentions d.display = d.units (· != 0) ∧ (mentions d.latex).Perm (mentions d.display) ∧
      (d.latex = "" ↔ d.isDimensionless) := by
  intro d
  have h : NamedUnit.ofDimension? d = none := by decide +kernel
  have hn : ∀ u, ¬ (d.exponent u).isNaN := by
    intro u
    cases u <;> decide +kernel
  have ht := texts_name_units d
  exact ⟨h, hn, (ht.1 h).1, (ht.1 h).2.2.mpr hn, ht.2.2 hn⟩

/-- Seven exponents that are displayed, and typeset as nothing. -/
theorem nan_is_not_typeset : let d := Dimension.dimensionless.power (1 / 0)
    NamedUnit.ofDimension? d = none ∧ mentions d.display = BaseUnit.all ∧ d.latex = "" ∧
      d.isDimensionless = false := by
  decide +kernel

end Dimension

end QuantityCalculator
