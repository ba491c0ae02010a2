import QuantityCalculator.Proofs.Reading.Accepts
import QuantityCalculator.Proofs.Scanning.Units
import QuantityCalculator.Proofs.Session.Reached

/-!
Quantities in sessions. Main statement: a line with the text of a number and that of a dimension
comes to that number with that dimension.
-/

namespace QuantityCalculator

open Text Double Numeral Grammar Eval

/-- What a quantity is read as, but for its sign. -/
def Phrase.quantity (literal : String) (d : Dimension) : Phrase :=
  if d.factors = [] then .number literal else .measured (.number literal) (.unit d.factors)

variable {x : Float} {d : Dimension} {literal : String}

namespace Grammar

variable {ts : List Token} {p : Phrase} {k m : Nat} {s : Bool} {e : Int}

lemma Derives.quantity (hd : ∀ u, (d.exponent u).isFinite) (place : Place) :
    ∃ ts e, Cursor.tokens ⟨' ' :: d.compound.toList, place, true⟩ = ts ++ [e] ∧
      e.kind = .endOfInput ∧ ∀ t : Token, t.kind = .number →
        Derives .operand (t :: ts) (.quantity t.text d) 0 := by
  obtain ⟨e, he, ⟨h, hu⟩ | ⟨h, hs, place', hu⟩⟩ := Cursor.compound_tokens hd place
  · refine ⟨[], e, hu, he, fun t ht => ?_⟩
    rw [Phrase.quantity, if_pos h]
    exact .number ht
  · obtain ⟨v, hv, -⟩ := Dimension.ofFactors_factors hd
    refine ⟨[_], e, hu, he, fun t ht => ?_⟩
    rw [Phrase.quantity, if_neg h]
    exact .measured ht rfl ⟨hs, Dimension.split_compound hd, v, hv⟩

lemma Derives.statement (h : Derives .unary ts p k) : Line ts (.evaluate p) (k + 1) := by
  have hx := Derives.expression (.term h .productEnd) .sumEnd
  rw [List.append_nil, List.append_nil, Nat.max_zero, Nat.max_zero] at hx
  exact .statement (.expression hx)

def signedPhrase (negative : Bool) (p : Phrase) : Phrase :=
  if negative then .negate p else p

lemma parse_quantity (hx : ofFloat x = .finite s m e) (hd : ∀ u, (d.exponent u).isFinite) :
    Phrase.parse (plain x ++ " " ++ d.compound) = .ok (.evaluate (signedPhrase s
      (.quantity (String.ofList (positional (Decimal.ofBinary m e).shortest)) d))) := by
  have hw := positional_positional (Decimal.ofBinary m e).shortest
  have hl : (plain x ++ " " ++ d.compound).toList =
      minus s ++ (positional (Decimal.ofBinary m e).shortest ++ ' ' :: d.compound.toList) := by
    simp [plain_of_finite hx]
  generalize positional (Decimal.ofBinary m e).shortest = w at hw hl
  cases s
  · obtain ⟨place, ht⟩ := Cursor.number_tokens hw d.compound.toList {}
    obtain ⟨us, z, hu, hz, hp⟩ := Derives.quantity hd place
    have hline := (hp ⟨.number, String.ofList w, {}⟩ rfl).power.unary.statement
    refine parse_of_derivable ⟨_, z, ?_, hz, hline⟩ (by decide)
    rw [Cursor.ofText, hl]
    exact ht.trans (congrArg _ hu)
  · obtain ⟨place₁, hm⟩ := Cursor.tokens_first '-' (w ++ ' ' :: d.compound.toList) rfl rfl rfl {}
    obtain ⟨place₂, ht⟩ := Cursor.number_tokens hw d.compound.toList place₁
    obtain ⟨us, z, hu, hz, hp⟩ := Derives.quantity hd place₂
    have hq := (hp ⟨.number, String.ofList w, place₁⟩ rfl).power.unary
    have hline := (Derives.minus (t := ⟨.minus, "-", {}⟩) rfl hq).statement
    refine parse_of_derivable ⟨_, z, ?_, hz, hline⟩ (by decide)
    rw [Cursor.ofText, hl]
    exact hm.trans (congrArg _ (ht.trans (congrArg _ hu)))

end Grammar

namespace Phrase

variable {caller : Caller} {env : Environment}

lemma evaluate_number (h : Numeral.read literal = some x) (hl : literal ≠ "") :
    (number literal).evaluateWith caller env = (.ok (.value (.dimensionless x)), env) := by
  simp only [evaluateWith, literalValue, if_neg hl, h]
  rfl

lemma evaluate_unit {fs : List Factor} (h : Dimension.ofFactors fs = .ok d) :
    (unit fs).evaluateWith caller env = (.ok (.value (.ofDimension d)), env) := by
  simp only [evaluateWith, h]
  rfl

lemma evaluate_measured {p p' : Phrase} {q q' : Quantity}
    (h : p.evaluateWith caller env = (.ok (.value q), env))
    (h' : p'.evaluateWith caller env = (.ok (.value q'), env)) :
    (measured p p').evaluateWith caller env = (.ok (.value (q * q')), env) := by
  have hv : (p.evaluateWith caller >>= Eval.quantity) env = (.ok q, env) := bind_of_ok h
  rw [evaluateWith, bind_of_ok hv, bind_assoc, bind_of_ok h']
  rfl

lemma evaluate_negate {p : Phrase} {q : Quantity}
    (h : p.evaluateWith caller env = (.ok (.value q), env)) :
    (negate p).evaluateWith caller env = (.ok (.value (-q)), env) := by
  rw [evaluateWith, bind_assoc, bind_of_ok h]
  rfl

lemma evaluate_quantity (h : Numeral.read literal = some x) (hl : literal ≠ "") (hx : x.isFinite)
    (hd : ∀ u, (d.exponent u).isFinite) :
    ∃ q, (∀ caller env, (quantity literal d).evaluateWith caller env = (.ok (.value q), env)) ∧
      q.value = x ∧ q.dimension.agrees d := by
  rw [quantity]
  split
  · next hf =>
    refine ⟨_, fun _ _ => evaluate_number h hl, rfl, Dimension.agrees_of_same hd fun u => ?_⟩
    have hz := Dimension.isZero_of_factors hf u
    exact .inr ⟨(Dimension.exponent_dimensionless u).symm ▸ isZero_zero, hz⟩
  · next hf =>
    -- The number has no dimension and the unit is one, so that each leaves the other as it is.
    obtain ⟨v, hv, hs⟩ := Dimension.ofFactors_factors hd
    refine ⟨_, fun _ _ => evaluate_measured (evaluate_number h hl) (evaluate_unit hv),
      Double.mul_one hx, Dimension.agrees_of_same hd fun u => ?_⟩
    have hu : ((Quantity.dimensionless x).dimension * v).exponent u = 0 + v.exponent u := by
      rw [Dimension.exponent_mul, Quantity.dimensionless, Dimension.exponent_dimensionless]
    exact hu ▸ (zero_add_same _).trans (hs u)

end Phrase

namespace Session

variable {σ : Type} [Storage (StateM σ)] {s : Session} {line : String} {p : Phrase} {q : Quantity}

lemma step_evaluate (hp : Phrase.parse line = .ok (.evaluate p))
    (h : ∀ caller, p.evaluateWith caller s.environment = (.ok (.value q), s.environment)) (w : σ) :
    (s.step line w).1 = .ok (.value q) := by
  have hr : p.evaluate.run Phrase.callLimit s.environment = (.ok (.value q), s.environment) := by
    rw [Phrase.run_evaluate]
    exact h _
  rw [step, runLine, hp]
  simp only [execute, hr]
  rfl

/-- A finite number and a dimension with finite exponents, written one after the other, are a line
that comes to their quantity in every session. -/
theorem quantity_is_read (s : Session) (w : σ) (hx : x.isFinite)
    (hd : ∀ u, (d.exponent u).isFinite) :
    ∃ q, (s.step (plain x ++ " " ++ d.compound) w).1 = .ok (.value q) ∧ q.value = x ∧
      q.dimension.agrees d := by
  obtain ⟨negative, m, e, hf⟩ := isFinite_iff.mp hx
  obtain ⟨hc, b, hi, rfl, hb⟩ := signed_of_finite hf
  have hp := parse_quantity hf hd
  have hread := read_written hc hi hb false
  have hl : String.ofList (positional (Decimal.ofBinary m e).shortest) ≠ "" := by
    obtain ⟨c, r, hw, -⟩ := (positional_positional (Decimal.ofBinary m e).shortest).head
    simp [hw]
  obtain ⟨q, hq, hv, hu⟩ := Phrase.evaluate_quantity hread hl (isFinite_signed false hi) hd
  cases negative
  · exact ⟨q, step_evaluate hp (fun caller => hq caller _) w, hv, hu⟩
  · refine ⟨-q, step_evaluate hp (fun caller => Phrase.evaluate_negate (hq caller _)) w, ?_, hu⟩
    exact (congrArg Neg.neg hv).trans (neg_signed false hi)

theorem negative_zero_is_read :
    ∃ q, ((start true).step
        (plain (-0.0) ++ " " ++ Dimension.compound { second := -2.5, metre := 3 })
        ({} : Folder)).1 = .ok (.value q) ∧
      q.value = -0.0 ∧ q.dimension.agrees { second := -2.5, metre := 3 } :=
  quantity_is_read _ _ (by decide +kernel) fun u => by cases u <;> decide +kernel

end Session

end QuantityCalculator
