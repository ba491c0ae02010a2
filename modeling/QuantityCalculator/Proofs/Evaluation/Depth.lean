import Mathlib.Data.List.Forall2
import QuantityCalculator.Evaluation.Evaluate
import QuantityCalculator.Proofs.Action
import QuantityCalculator.Proofs.Subphrase

/-!
The depth to which calls may nest: where it is enough, more of it makes no difference, and what is
evaluated on the way has what is left of it.
-/

namespace QuantityCalculator

lemma Environment.depth_push (env : Environment) (frame : Frame) :
    (env.push frame).depth = env.depth + 1 :=
  rfl

namespace Eval

/-- `x`, where one frame more is not more than `d`. -/
def ifRoom {α : Type} (d : Nat) (x : Eval α) : Eval α := fun env =>
  if env.depth < d then x env else (.error .callsTooDeep, env)

variable {α β : Type} {x y : Eval α} {f g : α → Eval β}

/-- `y` comes to the same as `x`, unless that fails for want of depth. -/
def Deepens (x y : Eval α) : Prop :=
  ∀ env, (x env).1 = .error .callsTooDeep ∨ y env = x env

lemma deepens_refl (x : Eval α) : Deepens x x :=
  fun _ => .inr rfl

lemma Deepens.bind (hx : Deepens x y) (hf : ∀ a, Deepens (f a) (g a)) :
    Deepens (x >>= f) (y >>= g) := by
  intro env
  rcases hr : x env with ⟨e | a, env'⟩
  · obtain h | h := hx env
    · left
      obtain rfl : e = .callsTooDeep := by simpa [hr] using h
      rw [bind_of_error hr]
    · right
      rw [bind_of_error hr, bind_of_error (h.trans hr)]
  · obtain h | h := hx env
    · rw [hr] at h
      contradiction
    · rw [bind_of_ok hr, bind_of_ok (h.trans hr)]
      exact hf a env'

lemma Deepens.within (hx : Deepens x y) (frame : Frame) :
    Deepens (within frame x) (within frame y) := by
  intro env
  obtain h | h := hx (env.push frame)
  · exact .inl h
  · right
    rw [Eval.within, Eval.within, h]

end Eval

open Eval

namespace Phrase

/-- Comes to what `run` comes to, unless that takes more frames than `d` at once. -/
def runWithin (d : Nat) : Nat → Phrase → Eval Outcome
  | 0 => evaluateWith fun _ _ => throw .callsTooDeep
  | n + 1 => evaluateWith fun f as => ifRoom d (enter (runWithin d n) f as)

variable {c c' : Caller}

lemma deepens_quantities {as : List Phrase}
    (h : ∀ a ∈ as, Deepens (a.evaluateWith c) (a.evaluateWith c')) :
    Deepens (quantitiesWith c as) (quantitiesWith c' as) := by
  induction as with
  | nil => exact deepens_refl _
  | cons a as ih =>
    refine ((h a (by simp)).bind fun _ => deepens_refl _).bind fun q => ?_
    exact (ih fun b hb => h b (by simp [hb])).bind fun _ => deepens_refl _

lemma deepens_evaluateWith (hc : ∀ f as, Deepens (c f as) (c' f as)) (p : Phrase) :
    Deepens (p.evaluateWith c) (p.evaluateWith c') := by
  have quantity {p : Phrase} (h : Deepens (p.evaluateWith c) (p.evaluateWith c')) :
      Deepens (p.evaluateWith c >>= quantity) (p.evaluateWith c' >>= quantity) :=
    h.bind fun _ => deepens_refl _
  induction p using Phrase.induction with
  | number | unit | access | defineFunction | render | newline | exit | quit => exact deepens_refl _
  | binary o l r ihl ihr | measured l r ihl ihr =>
    exact (quantity ihl).bind fun _ => (quantity ihr).bind fun _ => deepens_refl _
  | negate p ih | absolute p ih | group p ih | define x p ih =>
    exact (quantity ih).bind fun _ => deepens_refl _
  | evaluate p ih | exclude p ih => exact ih
  | call f as ih =>
    refine (deepens_refl _).bind fun g => (deepens_quantities ih).bind fun vs => ?_
    cases g with
    | builtin => exact deepens_refl _
    | user u => exact (hc u vs).bind fun _ => deepens_refl _

lemma deepens_enter {run run' : Phrase → Eval Outcome} (h : ∀ p, Deepens (run p) (run' p))
    (f : UserFunction) (as : List Quantity) : Deepens (enter run f as) (enter run' f as) := by
  rw [enter, enter]
  split
  · exact ((h f.body).bind fun _ => deepens_refl _).within _
  · exact deepens_refl _

lemma deepens_run_succ (p : Phrase) (n : Nat) : Deepens (p.run n) (p.run (n + 1)) := by
  induction n generalizing p with
  | zero =>
    -- Without any depth every call of a user's function fails for want of it.
    exact deepens_evaluateWith (fun _ _ _ => .inl rfl) p
  | succ n ih => exact deepens_evaluateWith (deepens_enter ih) p

lemma deepens_runWithin (d n : Nat) (p : Phrase) : Deepens (p.runWithin d n) (p.run n) := by
  induction n generalizing p with
  | zero => exact deepens_refl _
  | succ n ih =>
    refine deepens_evaluateWith (fun f as env => ?_) p
    rw [ifRoom]
    split
    · exact deepens_enter ih f as env
    · exact .inl rfl

/-- Whether an evaluation ends if calls may nest as deep as they need. -/
def Terminates (p : Phrase) (env : Environment) : Prop :=
  ∃ n, (p.run n env).1 ≠ .error .callsTooDeep

/-- An evaluation that ends comes to the same however much deeper calls might have nested. -/
theorem run_eq_of_le {p : Phrase} {env : Environment} {m n : Nat} (hmn : m ≤ n)
    (h : (p.run m env).1 ≠ .error .callsTooDeep) : p.run n env = p.run m env := by
  induction hmn with
  | refl => rfl
  | @step n _ ih =>
    obtain hn | hn := p.deepens_run_succ n env
    · rw [ih] at hn
      exact absurd hn h
    · rw [hn, ih]

def Gives (n : Nat) (env : Environment) (p : Phrase) (q : Quantity) : Prop :=
  (p.run n >>= quantity) env = (.ok q, env)

/-- Nothing fails in `env` before the operands: a callee is looked up before its arguments. -/
def Opens (env : Environment) : Phrase → Prop
  | call f _ => (env.functions.get? f).isSome
  | _ => True

/-- Evaluating `p` in `env` evaluates `q` in `env'`; calls may nest `n` and `m` deep there. -/
inductive Reaches : Nat → Environment → Phrase → Nat → Environment → Phrase → Prop
  | self {n env p} : Reaches n env p n env p
  | operand {n env p pre c post m env' q} : p.Opens env → p.children = pre ++ c :: post →
      (∀ d ∈ pre, ∃ v, d.Gives n env v) → Reaches n env c m env' q → Reaches n env p m env' q
  | body {n env f u as vs m env' q} : env.functions.get? f = some (.user u) →
      List.Forall₂ (Gives (n + 1) env) as vs → u.parameters.length = vs.length →
      Reaches n (env.push (Bindings.ofEntries (u.parameters.zip vs))) u.body m env' q →
      Reaches (n + 1) env (call f as) m env' q

end Phrase

end QuantityCalculator
