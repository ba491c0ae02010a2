import QuantityCalculator.Proofs.Evaluation.Computes

/-!
What a statement does to the environment: nothing if it fails, and one binding at most if not.
-/

namespace QuantityCalculator

open Eval

/-- The effect of a statement that does not fail. -/
inductive Phrase.Effect : Phrase → Environment → Environment → Prop
  | expression {p env} : p.IsExpression → Effect p env env
  | define {x p env q} : Effect (.define x p) env (env.define x q)
  | defineFunction {f xs p env} : Effect (.defineFunction f xs p) env (env.defineFunction ⟨f, xs, p⟩)

def Outcome.OfStatement (o : Outcome) : Prop :=
  IsValue o ∨ o = .signal .nothing

namespace Phrase

variable {p : Phrase} {env env' : Environment}

lemma run_evaluate (p : Phrase) (n : Nat) : (evaluate p).run n = p.run n := by
  cases n <;> rfl

lemma run_exclude (p : Phrase) (n : Nat) : (exclude p).run n = p.run n := by
  cases n <;> rfl

lemma run_define (x : String) (p : Phrase) (n : Nat) :
    (define x p).run n = (do
      let q ← p.run n >>= quantity
      modify (·.define x q)
      return .signal .nothing) := by
  cases n <;> rfl

lemma run_defineFunction (f : String) (xs : List String) (p : Phrase) (n : Nat) :
    (defineFunction f xs p).run n env =
      (.ok (.signal .nothing), env.defineFunction ⟨f, xs, p⟩) := by
  cases n <;> rfl

lemma run_render (path : String) (n : Nat) :
    (render path).run n env = (.ok (.signal (.render path)), env) := by
  cases n <;> rfl

lemma run_newline (n : Nat) : newline.run n env = (.ok (.signal .nothing), env) := by
  cases n <;> rfl

lemma run_exit (n : Nat) : exit.run n env = (.ok (.signal .exit), env) := by
  cases n <;> rfl

lemma run_quit (n : Nat) : quit.run n env = (.ok (.signal .exit), env) := by
  cases n <;> rfl

lemma IsStatement.run (hp : p.IsStatement) (he : env.Checked) (n : Nat) :
    ∃ r env', p.run n env = (r, env') ∧ match r with
      | .ok o => o.OfStatement ∧ p.Effect env env'
      | .error e => env' = env ∧ (e = .callsTooDeep ∨ e.IsExpected) := by
  cases hp with
  | expression hp =>
    obtain ⟨e | o, hr, h⟩ := hp.computes he n
    · exact ⟨_, _, hr, rfl, h⟩
    · exact ⟨_, _, hr, .inl h, .expression hp⟩
  | @define x p hp =>
    obtain ⟨e | q, hr, h⟩ := (hp.computes he n).quantity
    · refine ⟨.error e, env, ?_, rfl, h⟩
      rw [run_define]
      exact bind_of_error hr
    · refine ⟨.ok (.signal .nothing), env.define x q, ?_, .inr rfl, .define⟩
      rw [run_define, bind_of_ok hr]
      rfl
  | defineFunction => exact ⟨_, _, run_defineFunction .., .inr rfl, .defineFunction⟩

lemma Effect.checked (h : p.Effect env env') (hp : p.IsStatement) (he : env.Checked) :
    env'.Checked := by
  cases h with
  | expression => exact he
  | define =>
    rw [Environment.define]
    split <;> exact he
  | @defineFunction f xs p =>
    intro name g hg
    rw [Environment.defineFunction, Bindings.get?_insert] at hg
    split at hg
    · obtain rfl : _ = g := by simpa using hg
      cases hp with
      | expression hp => cases hp
      | defineFunction hp => exact hp
    · exact he name g hg

end Phrase

end QuantityCalculator
