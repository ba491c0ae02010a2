import Mathlib.Data.List.Forall2
import QuantityCalculator.Proofs.Reading.Shape
import QuantityCalculator.Typesetting

/-!
Rows of the phrases that a line can be read as. All of them can be typeset; what holds of the row of
each kind of expression, if it holds of the rows inside it, holds of the row of every expression.
-/

namespace QuantityCalculator.Phrase

variable {p : Phrase} {as : List Phrase} {R : Phrase → String → Prop}

lemma inside_of_row {t : String} (h : p.row = .ok (.math t)) : p.row >>= Row.inside = .ok t := by
  rw [h]
  rfl

lemma rows_of_row (h : ∀ a ∈ as, ∃ t, a.row = .ok (.math t) ∧ R a t) :
    ∃ ts, rows as = .ok ts ∧ List.Forall₂ R as ts := by
  induction as with
  | nil => exact ⟨[], rfl, .nil⟩
  | cons a as ih =>
    obtain ⟨t, ht, hr⟩ := h a List.mem_cons_self
    obtain ⟨ts, hts, hrs⟩ := ih fun b hb => h b (List.mem_cons_of_mem _ hb)
    refine ⟨t :: ts, ?_, .cons hr hrs⟩
    rw [rows, inside_of_row ht, hts]
    rfl

lemma IsExpression.row_induction
    (number : ∀ s, R (.number s) (if s = "" then "1" else s))
    (binary : ∀ o l r a b, R l a → R r b → R (.binary o l r) (o.formula a b))
    (negate : ∀ p t, R p t → R (.negate p) ("-" ++ t))
    (absolute : ∀ p t, R p t → R (.absolute p) ("|" ++ t ++ "|"))
    (group : ∀ p t, R p t → R (.group p) ("(" ++ t ++ ")"))
    (unit : ∀ fs d, Dimension.ofFactors fs = .ok d → R (.unit fs) d.latex)
    (measured : ∀ v u a b, R v a → R u b → R (.measured v u) (if b = "" then a else a ++ " " ++ b))
    (access : ∀ x, R (.access x) x)
    (call : ∀ f as ts, List.Forall₂ R as ts → R (.call f as) (application f ts))
    (h : p.IsExpression) : ∃ t, p.row = .ok (.math t) ∧ R p t := by
  induction h with
  | number => exact ⟨_, rfl, number _⟩
  | access => exact ⟨_, rfl, access _⟩
  | binary _ _ ihl ihr =>
    obtain ⟨l, hl, hrl⟩ := ihl
    obtain ⟨r, hr, hrr⟩ := ihr
    refine ⟨_, ?_, binary _ _ _ _ _ hrl hrr⟩
    rw [row, inside_of_row hl, inside_of_row hr]
    rfl
  | measured _ _ ihv ihu =>
    obtain ⟨v, hv, hrv⟩ := ihv
    obtain ⟨u, hu, hru⟩ := ihu
    refine ⟨_, ?_, measured _ _ _ _ hrv hru⟩
    rw [row, inside_of_row hv, inside_of_row hu]
    rfl
  | negate _ ih =>
    obtain ⟨t, ht, hr⟩ := ih
    refine ⟨_, ?_, negate _ _ hr⟩
    rw [row, inside_of_row ht]
    rfl
  | absolute _ ih =>
    obtain ⟨t, ht, hr⟩ := ih
    refine ⟨_, ?_, absolute _ _ hr⟩
    rw [row, inside_of_row ht]
    rfl
  | group _ ih =>
    obtain ⟨t, ht, hr⟩ := ih
    refine ⟨_, ?_, group _ _ hr⟩
    rw [row, inside_of_row ht]
    rfl
  | unit hd =>
    refine ⟨_, ?_, unit _ _ hd⟩
    rw [row, hd]
    rfl
  | call _ ih =>
    obtain ⟨ts, hts, hrs⟩ := rows_of_row ih
    refine ⟨_, ?_, call _ _ _ hrs⟩
    rw [row, hts]
    rfl

lemma IsExpression.row_eq (hp : p.IsExpression) : ∃ t, p.row = .ok (.math t) := by
  obtain ⟨t, ht, -⟩ := hp.row_induction (R := fun _ _ => True) (by simp) (by simp) (by simp)
    (by simp) (by simp) (by simp) (by simp) (by simp) (by simp)
  exact ⟨t, ht⟩

lemma row_define {t : String} (x : String) (h : p.row = .ok (.math t)) :
    (define x p).row = .ok (.math (equation x t)) := by
  rw [row, inside_of_row h]
  rfl

lemma row_defineFunction {t : String} (f : String) (xs : List String) (h : p.row = .ok (.math t)) :
    (defineFunction f xs p).row = .ok (.math (equation (application f xs) t)) := by
  rw [row, inside_of_row h]
  rfl

lemma IsStatement.row_eq (hp : p.IsStatement) : ∃ t, p.row = .ok (.math t) := by
  cases hp with
  | expression hp => exact hp.row_eq
  | define hp =>
    obtain ⟨t, ht⟩ := hp.row_eq
    exact ⟨_, row_define _ ht⟩
  | defineFunction hp =>
    obtain ⟨t, ht⟩ := hp.row_eq
    exact ⟨_, row_defineFunction _ _ ht⟩

lemma IsLine.row_eq (hp : p.IsLine) : ∃ r, p.row = .ok r := by
  cases hp with
  | evaluate hp =>
    obtain ⟨t, ht⟩ := hp.row_eq
    exact ⟨_, ht⟩
  | exclude | render | newline | exit | quit => exact ⟨_, rfl⟩

end QuantityCalculator.Phrase
