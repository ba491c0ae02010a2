import QuantityCalculator.Proofs.Evaluation.Ends
import QuantityCalculator.Proofs.Reading.Shape

/-!
Expressions compute: they leave the environment as it is, and come to a value or to one of a few
errors.
-/

namespace QuantityCalculator

/-- The errors that are left for the evaluation of what was read. -/
inductive Error.IsExpected : Error → Prop
  | undefinedName {x} : IsExpected (.undefinedName x)
  | wrongArity {f a n} : IsExpected (.wrongArity f a n)
  | argumentHasUnit {f d} : IsExpected (.argumentHasUnit f d)
  | mismatch {a b} : IsExpected (.unit (.mismatch a b))
  | exponentHasUnit {d} : IsExpected (.unit (.exponentHasUnit d))

def Environment.Checked (env : Environment) : Prop :=
  ∀ name f, env.functions.get? name = some (.user f) → f.body.IsExpression

namespace Eval

variable {α β : Type} {x : Eval α} {f : α → Eval β} {env : Environment} {P : α → Prop}
  {Q : β → Prop} {a : α}

/-- In `env`, which it leaves as it is, `x` comes to what satisfies `P` or to an expected error. -/
def Computes (x : Eval α) (env : Environment) (P : α → Prop) : Prop :=
  ∃ r, x env = (r, env) ∧ match r with
    | .ok a => P a
    | .error e => e = .callsTooDeep ∨ e.IsExpected

lemma computes_pure (h : P a) : Computes (pure a) env P :=
  ends_pure h

lemma computes_throw {e : Error} (h : e = .callsTooDeep ∨ e.IsExpected) :
    Computes (throw e : Eval α) env P :=
  ends_throw h

lemma Computes.bind (hx : Computes x env P) (hf : ∀ a, P a → Computes (f a) env Q) :
    Computes (x >>= f) env Q :=
  Ends.bind hx fun a _ ha => hf a ha

lemma Computes.map {g : α → β} (hx : Computes x env P) (hg : ∀ a, P a → Q (g a)) :
    Computes (do return g (← x)) env Q :=
  Ends.map hx hg

lemma Computes.mono {P' : α → Prop} (hx : Computes x env P) (h : ∀ a, P a → P' a) :
    Computes x env P' :=
  Ends.mono hx h

lemma computes_ofResult {r : Except Error α} (h : ∀ e, r = .error e → e.IsExpected) :
    Computes (ofResult r) env (r = .ok ·) :=
  ends_ofResult fun e he => .inr (h e he)

lemma computes_ofUnit {r : Except UnitError α} (h : ∀ e, r = .error e → (Error.unit e).IsExpected) :
    Computes (ofUnit r) env (r = .ok ·) :=
  ends_ofUnit fun e he => .inr (h e he)

lemma Computes.within {frame : Frame} (hx : Computes x (env.push frame) P) :
    Computes (within frame x) env P :=
  Ends.within hx

def IsValue (o : Outcome) : Prop :=
  ∃ q, o = .value q

lemma Computes.quantity {x : Eval Outcome} (hx : Computes x env IsValue) :
    Computes (x >>= quantity) env fun _ => True :=
  Ends.quantity (hx.mono fun _ ⟨q, hq⟩ => ⟨q, hq, trivial⟩)

lemma computes_access (name : String) : Computes (access name) env fun _ => True :=
  (ends_access (.inr .undefinedName)).mono fun _ _ => trivial

lemma computes_callee (name : String) :
    Computes (callee name) env (env.functions.get? name = some ·) :=
  ends_callee (.inr .undefinedName)

end Eval

open Eval

lemma Builtin.isExpected_of_plain {f : Builtin} {q : Quantity} {e : Error}
    (h : f.plain q = .error e) : e.IsExpected := by
  rw [Builtin.plain] at h
  split at h
  · contradiction
  · cases h
    exact .argumentHasUnit

lemma Builtin.isExpected_of_elementary {f : Builtin} {g : Float → Float} {q : Quantity} {e : Error}
    (h : f.elementary g q = .error e) : e.IsExpected := by
  rw [Builtin.elementary] at h
  rcases hp : f.plain q with e' | y <;> rw [hp] at h <;> cases h
  exact isExpected_of_plain hp

lemma Builtin.isExpected_of_apply {f : Builtin} {arguments : List Quantity} {e : Error}
    (h : f.apply arguments = .error e) : e.IsExpected := by
  unfold Builtin.apply at h
  split at h
  · contradiction
  all_goals try exact isExpected_of_elementary h
  · next q base =>
    rcases hx : log.plain q with e' | y
    · rw [hx] at h
      cases h
      exact isExpected_of_plain hx
    · rcases hb : log.plain base with e' | z
      · rw [hx, hb] at h
        cases h
        exact isExpected_of_plain hb
      · rw [hx, hb] at h
        cases h
  · cases h
    exact .wrongArity

lemma Quantity.isExpected_of_apply {o : Operator} {l r : Quantity} {e : UnitError}
    (h : o.apply l r = .error e) : (Error.unit e).IsExpected := by
  have common {a b : Dimension} {g : Dimension → Quantity}
      (h : (a.common b).map g = .error e) : (Error.unit e).IsExpected := by
    rw [Dimension.common] at h
    split at h
    · contradiction
    · cases h
      exact .mismatch
  cases o with
  | add | subtract => exact common h
  | multiply | divide => contradiction
  | power =>
    rw [Operator.apply, Quantity.pow] at h
    split at h
    · contradiction
    · cases h
      exact .exponentHasUnit

def Eval.Caller.Computes (caller : Caller) : Prop :=
  ∀ {f as env}, env.Checked → f.body.IsExpression → Eval.Computes (caller f as) env fun _ => True

lemma Function.computes_apply {caller : Caller} (hc : caller.Computes) {env : Environment}
    (he : env.Checked) {name : String} {f : Function} (hf : env.functions.get? name = some f)
    (as : List Quantity) : Computes (f.apply caller as) env fun _ => True := by
  cases f with
  | builtin f =>
    refine (computes_ofResult ?_).mono fun _ _ => trivial
    intro e h
    exact Builtin.isExpected_of_apply h
  | user f => exact hc he (he name f hf)

namespace Phrase

variable {env : Environment} {caller : Caller} {p : Phrase} {as : List Phrase}

lemma computes_quantities (h : ∀ a ∈ as, Computes (a.evaluateWith caller) env IsValue) :
    Computes (quantitiesWith caller as) env fun _ => True := by
  induction as with
  | nil => exact computes_pure trivial
  | cons a as ih =>
    refine (h a (by simp)).quantity.bind fun q _ => ?_
    exact (ih fun b hb => h b (by simp [hb])).map fun _ _ => trivial

lemma IsExpression.computesWith (hc : caller.Computes) (he : env.Checked) (hp : p.IsExpression) :
    Computes (p.evaluateWith caller) env IsValue := by
  induction hp with
  | @number s hs =>
    refine Computes.map (P := fun _ => True) ?_ fun _ _ => ⟨_, rfl⟩
    refine (computes_ofResult ?_).mono fun _ _ => trivial
    intro e h
    rw [literalValue] at h
    obtain rfl | hs := hs
    · contradiction
    · obtain ⟨y, hy⟩ := Option.isSome_iff_exists.mp hs
      rw [hy] at h
      split at h <;> contradiction
  | binary _ _ ihl ihr =>
    refine ihl.quantity.bind fun l _ => ihr.quantity.bind fun r _ => ?_
    refine (computes_ofUnit ?_).map fun _ _ => ⟨_, rfl⟩
    intro e h
    exact Quantity.isExpected_of_apply h
  | negate _ ih | absolute _ ih | group _ ih => exact ih.quantity.map fun _ _ => ⟨_, rfl⟩
  | unit hd =>
    refine (computes_ofUnit ?_).map fun _ _ => ⟨_, rfl⟩
    intro e h
    rw [hd] at h
    contradiction
  | measured _ _ ihv ihu =>
    exact ihv.quantity.bind fun _ _ => ihu.quantity.map fun _ _ => ⟨_, rfl⟩
  | @access x => exact (computes_access x).map fun _ _ => ⟨_, rfl⟩
  | @call f as _ ih =>
    -- What is called was stored in the environment, so its body is an expression.
    refine (computes_callee f).bind fun g hg => (computes_quantities ih).bind fun vs _ => ?_
    exact (g.computes_apply hc he hg vs).map fun _ _ => ⟨_, rfl⟩

lemma computes_enter {run : Phrase → Eval Outcome}
    (hr : ∀ {p env}, p.IsExpression → env.Checked → Computes (run p) env IsValue) :
    Caller.Computes (enter run) := by
  intro f as env he hf
  rw [enter]
  split
  · exact (hr hf (by exact he)).quantity.within
  · exact computes_throw (.inr .wrongArity)

lemma IsExpression.computes (hp : p.IsExpression) (he : env.Checked) (n : Nat) :
    Computes (p.run n) env IsValue := by
  induction n generalizing p env with
  | zero => exact hp.computesWith (fun _ _ => computes_throw (.inl rfl)) he
  | succ n ih => exact hp.computesWith (computes_enter fun hp he => ih hp he) he

end Phrase

end QuantityCalculator
