import QuantityCalculator.Proofs.Dimension.ExponentText
import QuantityCalculator.Proofs.Reading.Words
import QuantityCalculator.Proofs.Typesetting.Rows
import QuantityCalculator.Quantity

/-!
Text without breaks and marks of alignment. Main statement: the row of an expression that was read is
such a text, and so is the text of every quantity.
-/

namespace QuantityCalculator

namespace Text

/-- A text that neither aligns nor breaks a row. -/
def Inert (s : List Char) : Prop :=
  ∀ c ∈ s, c ≠ '&' ∧ c ≠ '\n'

variable {s t : List Char} {c : Char}

@[simp] lemma inert_nil : Inert [] :=
  nofun

@[simp] lemma inert_cons : Inert (c :: s) ↔ (c ≠ '&' ∧ c ≠ '\n') ∧ Inert s :=
  List.forall_mem_cons

@[simp] lemma inert_append : Inert (s ++ t) ↔ Inert s ∧ Inert t :=
  List.forall_mem_append

lemma inert_of_isDigit (h : ∀ c ∈ s, c.isDigit) : Inert s := by
  intro c hc
  have hd := h c hc
  constructor <;> (rintro rfl; contradiction)

lemma inert_of_isWord (h : ∀ c ∈ s, isWord c) : Inert s := by
  intro c hc
  have hw := h c hc
  constructor <;> (rintro rfl; contradiction)

lemma inert_intercalate {ts : List (List Char)} (hs : Inert s) (h : ∀ t ∈ ts, Inert t) :
    Inert (s.intercalate ts) := by
  induction ts with
  | nil => simp
  | cons t ts ih =>
    obtain ⟨ht, hts⟩ := List.forall_mem_cons.mp h
    rcases ts with _ | ⟨u, ts⟩
    · simpa using ht
    · rw [List.intercalate_cons_of_ne_nil (by simp), inert_append, inert_append]
      exact ⟨⟨ht, hs⟩, ih hts⟩

end Text

open Text

namespace Numeral

lemma Fraction.inert {fs : List Char} (h : Fraction fs) : Inert fs := by
  cases h with
  | none => simp
  | digits hd => simpa using inert_of_isDigit hd.2

lemma Literal.inert {w : List Char} (h : Literal w) : Inert w := by
  obtain @⟨ds, fs, ps, hd, hf, hp⟩ := h
  rw [inert_append, inert_append]
  refine ⟨⟨inert_of_isDigit hd.2, hf.inert⟩, ?_⟩
  cases hp with
  | none => simp
  | digits hc hs hd =>
    obtain rfl | rfl := hc <;> obtain rfl | rfl | rfl := hs <;> simpa using inert_of_isDigit hd.2

lemma figures_are_inert : (figures.all fun c => c ≠ '&' ∧ c ≠ '\n') = true := by
  decide

lemma Figures.inert {w : List Char} (h : Figures w) : Inert w :=
  fun c hc => of_decide_eq_true (List.all_eq_true.mp figures_are_inert c (h c hc))

lemma inert_marked (x : Float) : Inert (marked x).toList :=
  (figures_write figures_general x).inert

end Numeral

lemma Factor.inert_latex {f : Factor} (h : Inert f.symbol.toList) : Inert f.latex.toList := by
  have he : Inert (exponentText f.exponent).toList := (figures_exponentText f.exponent).inert
  rw [latex]
  split
  · exact h
  · simpa using ⟨h, he⟩

lemma BaseUnit.inert_symbol (u : BaseUnit) : Inert u.symbol.toList := by
  cases u <;> simp [symbol]

lemma NamedUnit.inert_symbol : ∀ u ∈ all, Inert u.symbol.toList := by
  simp [all, derived, BaseUnit.all, BaseUnit.inert_symbol]

namespace Dimension

lemma inert_factors {fs : List Factor} (h : ∀ f ∈ fs, Inert f.symbol.toList) :
    Inert (" ".intercalate (fs.map Factor.latex)).toList := by
  rw [String.toList_intercalate]
  apply inert_intercalate (by simp)
  rw [List.forall_mem_map, List.forall_mem_map]
  exact fun f hf => Factor.inert_latex (h f hf)

lemma inert_latex (d : Dimension) : Inert d.latex.toList := by
  have hf : ∀ f ∈ d.factors, Inert f.symbol.toList := by
    intro f hf
    obtain ⟨u, -, rfl⟩ := List.mem_map.mp (List.mem_of_mem_filter hf)
    exact u.inert_symbol
  have hn : Inert (" ".intercalate (d.numerator.map Factor.latex)).toList :=
    inert_factors fun f h => hf f (List.mem_of_mem_filter h)
  have hd : Inert (" ".intercalate (d.denominator.map Factor.latex)).toList := by
    apply inert_factors
    rw [denominator, List.forall_mem_map]
    exact fun f h => hf f (List.mem_of_mem_filter h)
  rw [latex]
  split
  · next u hu => exact NamedUnit.inert_symbol u (List.mem_of_find?_eq_some hu)
  · simp only
    split
    · exact hn
    · split <;> simp only [String.toList_append, inert_append, hn, hd] <;> simp

end Dimension

lemma Quantity.inert_latex (q : Quantity) : Inert q.latex.toList := by
  simp [latex, Numeral.inert_marked, Dimension.inert_latex]

namespace Phrase

variable {p : Phrase}

lemma inert_application {f : String} {ts : List String} (hf : Inert f.toList)
    (h : ∀ t ∈ ts, Inert t.toList) : Inert (application f ts).toList := by
  have hi : Inert (", ".intercalate ts).toList := by
    rw [String.toList_intercalate]
    exact inert_intercalate (by simp) (List.forall_mem_map.mpr h)
  simp only [application, String.toList_append, inert_append, hf, hi]
  simp

lemma IsExpression.inert_row (h : p.IsExpression) :
    ∃ t, p.row = .ok (.math t) ∧ (p.Proper → Inert t.toList) := by
  refine h.row_induction (R := fun p t => p.Proper → Inert t.toList)
    ?number ?binary ?negate ?absolute ?group ?unit ?measured ?access ?call
  case number =>
    intro s hw
    have hl : s = "" ∨ Numeral.Literal s.toList := hw _ .self
    split
    · simp
    · next hn => exact (hl.resolve_left hn).inert
  case binary =>
    intro o l r a b ihl ihr hw
    have hl := ihl (hw.child (by simp [children]))
    have hr := ihr (hw.child (by simp [children]))
    cases o <;> simp [Operator.formula, braced, hl, hr]
  case negate | absolute | group =>
    intro p t ih hw
    simpa using ih (hw.child (by simp [children]))
  case unit => exact fun _ d _ _ => d.inert_latex
  case measured =>
    intro v u a b ihv ihu hw
    have hv := ihv (hw.child (by simp [children]))
    have hb := ihu (hw.child (by simp [children]))
    split
    · exact hv
    · simpa using ⟨hv, hb⟩
  case access =>
    intro x hw
    have hx : IsName x.toList := hw _ .self
    exact inert_of_isWord hx.2
  case call =>
    intro f as ts ih hw
    have hf : IsName f.toList := hw _ .self
    have hs := (List.forall₂_and_left as ts).mpr ⟨fun a (ha : a ∈ as) => hw.child ha, ih⟩
    have ht : List.Forall₂ (fun t (_ : Phrase) => Inert t.toList ∧ True) ts as :=
      (hs.imp fun _ _ h => ⟨h.2 h.1, trivial⟩).flip
    exact inert_application (inert_of_isWord hf.2) ((List.forall₂_and_left ts as).mp ht).1

/-- Nothing but a unit that stands alone could leave a row empty. -/
lemma IsExpression.row_ne_empty (h : p.IsExpression) :
    ∃ t, p.row = .ok (.math t) ∧ (p.Proper → (∀ fs, p ≠ .unit fs) → t ≠ "") := by
  refine h.row_induction (R := fun p t => p.Proper → (∀ fs, p ≠ .unit fs) → t ≠ "")
    ?number ?binary ?negate ?absolute ?group ?unit ?measured ?access ?call
  case number =>
    intro s _ _
    split <;> simp_all
  case binary =>
    intro o l r a b _ _ _ _
    cases o <;> simp [Operator.formula, braced]
  case negate | absolute | group => simp
  case unit => exact fun fs _ _ _ hn => absurd rfl (hn fs)
  case measured =>
    intro v u a b ihv _ hw _
    obtain ⟨s, rfl⟩ : ∃ s, v = .number s := hw _ .self
    have hv := ihv (hw.child (by simp [children])) (by simp)
    split
    · exact hv
    · simp
  case access =>
    rintro x hw _ rfl
    have hx : IsName "".toList := hw _ .self
    simp [IsName] at hx
  case call => simp [application]

end Phrase

end QuantityCalculator
