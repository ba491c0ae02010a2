import QuantityCalculator.Proofs.Evaluation.Effect
import QuantityCalculator.Session

/-!
The sessions that lines lead to. A line that fails, or ends the session, leaves the session as it was;
any other line is recorded, and changes what it defines alone.
-/

namespace QuantityCalculator

open Eval

namespace Session

variable {σ : Type} [Storage (StateM σ)]

/-- Runs a line where the state of the world, with what is stored in it, is `w`. -/
def step (s : Session) (line : String) (w : σ) : Except Error Outcome × Session :=
  ((s.runLine line : StateM σ (Except Error Outcome × Session)) w).1

/-- What lines lead to from a fresh session, whatever happens in the world between them. -/
inductive Reached (σ : Type) [Storage (StateM σ)] : Session → Prop
  | start (constants : Bool) : Reached σ (start constants)
  | step {s} (line : String) (w : σ) : Reached σ s → Reached σ (s.step line w).2

structure Regular (s : Session) : Prop where
  locals_eq : s.environment.locals = []
  checked : s.environment.Checked
  isLine : ∀ e ∈ s.ledger.entries, e.phrase.IsLine

end Session

/-- Whether a line is recorded: it does not fail, nor end the session. -/
def Counts : Except Error Outcome → Prop
  | .ok o => o ≠ .signal .exit
  | .error _ => False

instance : DecidablePred Counts
  | .ok o => inferInstanceAs (Decidable (o ≠ .signal .exit))
  | .error _ => .isFalse id

namespace Phrase

/-- Between two environments nothing is different but what the line defines. -/
def OnlyDefines : Phrase → Environment → Environment → Prop
  | evaluate (.define x _), a, b | exclude (.define x _), a, b =>
    b.functions = a.functions ∧ ∀ y ≠ x, b.globals.get? y = a.globals.get? y
  | evaluate (.defineFunction f _ _), a, b | exclude (.defineFunction f _ _), a, b =>
    b.globals = a.globals ∧ ∀ g ≠ f, b.functions.get? g = a.functions.get? g
  | _, a, b => b = a

variable {p : Phrase} {env env' : Environment}

lemma Effect.locals_eq (h : p.Effect env env') (hl : env.locals = []) : env'.locals = [] := by
  cases h with
  | expression => exact hl
  | define => rw [Environment.define, hl]
  | defineFunction => exact hl

lemma Effect.onlyDefines (h : p.Effect env env') (hl : env.locals = []) :
    (evaluate p).OnlyDefines env env' ∧ (exclude p).OnlyDefines env env' := by
  cases h with
  | expression hp => cases hp <;> exact ⟨rfl, rfl⟩
  | @define x _ _ q =>
    have h : (env.define x q).functions = env.functions ∧
        ∀ y ≠ x, (env.define x q).globals.get? y = env.globals.get? y := by
      rw [Environment.define, hl]
      refine ⟨rfl, fun y hy => ?_⟩
      rw [Bindings.get?_insert, if_neg hy]
    exact ⟨h, h⟩
  | @defineFunction f xs p =>
    have h : (env.defineFunction ⟨f, xs, p⟩).globals = env.globals ∧
        ∀ g ≠ f, (env.defineFunction ⟨f, xs, p⟩).functions.get? g = env.functions.get? g := by
      refine ⟨rfl, fun g hg => ?_⟩
      rw [Environment.defineFunction, Bindings.get?_insert, if_neg hg]
    exact ⟨h, h⟩

lemma IsLine.run (hp : p.IsLine) (he : env.Checked) (hl : env.locals = []) (n : Nat) :
    ∃ r env', p.run n env = (r, env') ∧ match r with
      | .ok o => (o.OfStatement ∨ env' = env ∧ (o = .signal .exit ∨ ∃ path, o = .signal (.render path)))
        ∧ env'.Checked ∧ env'.locals = [] ∧ p.OnlyDefines env env'
      | .error e => env' = env ∧ (e = .callsTooDeep ∨ e.IsExpected) := by
  have command {q : Phrase} (h : q.OnlyDefines env env) :
      env.Checked ∧ env.locals = [] ∧ q.OnlyDefines env env := ⟨he, hl, h⟩
  cases hp with
  | evaluate hp =>
    rw [run_evaluate]
    obtain ⟨e | o, env', hr, h⟩ := hp.run he n
    · exact ⟨_, _, hr, h⟩
    · obtain ⟨ho, h⟩ := h
      exact ⟨_, _, hr, .inl ho, h.checked hp he, h.locals_eq hl, (h.onlyDefines hl).1⟩
  | exclude hp =>
    rw [run_exclude]
    obtain ⟨e | o, env', hr, h⟩ := hp.run he n
    · exact ⟨_, _, hr, h⟩
    · obtain ⟨ho, h⟩ := h
      exact ⟨_, _, hr, .inl ho, h.checked hp he, h.locals_eq hl, (h.onlyDefines hl).2⟩
  | @render path => exact ⟨_, _, run_render path n, .inr ⟨rfl, .inr ⟨path, rfl⟩⟩, command rfl⟩
  | newline => exact ⟨_, _, run_newline n, .inl (.inr rfl), command rfl⟩
  | exit => exact ⟨_, _, run_exit n, .inr ⟨rfl, .inl rfl⟩, command rfl⟩
  | quit => exact ⟨_, _, run_quit n, .inr ⟨rfl, .inl rfl⟩, command rfl⟩

end Phrase

namespace Session

variable {σ : Type} [Storage (StateM σ)] {s : Session}

lemma Regular.step_cases (h : s.Regular) (line : String) (w : σ) :
    ¬ Counts (s.step line w).1 ∧ (s.step line w).2 = s ∨
      ∃ p o env, Phrase.parse line = .ok p ∧ o ≠ .signal .exit ∧
        s.step line w = (.ok o, ⟨env, s.ledger.push ⟨p, o⟩⟩) ∧
        env.Checked ∧ env.locals = [] ∧ p.OnlyDefines s.environment env := by
  rcases hp : Phrase.parse line with e | p
  · left
    rw [step, runLine, hp]
    exact ⟨not_false, rfl⟩
  · have hx : s.step line w = ((s.execute p : StateM σ (Except Error Outcome × Session)) w).1 := by
      rw [step, runLine, hp]
    obtain ⟨e | o, env, hr, hq⟩ :=
      (Phrase.isLine_of_parse hp).run h.checked h.locals_eq Phrase.callLimit
    · left
      rw [hx]
      simp only [execute, hr]
      exact ⟨not_false, by rw [hq.1]; rfl⟩
    · obtain ⟨hv | ⟨rfl, rfl | ⟨path, rfl⟩⟩, hq⟩ := hq
      · right
        obtain ⟨q, rfl⟩ | rfl := hv
        · refine ⟨p, .value q, env, rfl, by simp, ?_, hq⟩
          rw [hx]
          simp only [execute, hr]
          rfl
        · refine ⟨p, .signal .nothing, env, rfl, by simp, ?_, hq⟩
          rw [hx]
          simp only [execute, hr]
          rfl
      · left
        rw [hx]
        simp only [execute, hr]
        exact ⟨fun hc => hc rfl, rfl⟩
      · -- Nothing but a line that says to render goes on to the world, where it may fail.
        rcases hw : (({ s with environment := s.environment } : Session).render path :
          StateM σ (Except Error Unit)) w with ⟨e | u, w'⟩
        · left
          rw [hx]
          simp only [execute, hr, bind, StateT.bind, hw]
          exact ⟨not_false, rfl⟩
        · right
          refine ⟨p, .signal (.render path), s.environment, rfl, by simp, ?_, hq⟩
          rw [hx]
          simp only [execute, hr, bind, StateT.bind, hw]
          rfl

lemma regular_start (constants : Bool) : (start constants).Regular := by
  have hc : (start constants).environment.functions = Environment.builtins := by
    cases constants <;> rfl
  refine ⟨by cases constants <;> rfl, ?_, nofun⟩
  intro name f hf
  rw [hc] at hf
  exact absurd hf (Environment.get?_builtins_ne name f)

lemma Regular.step (h : s.Regular) (line : String) (w : σ) : (s.step line w).2.Regular := by
  obtain ⟨-, hs⟩ | ⟨p, o, env, hp, -, hs, he, hl, -⟩ := h.step_cases line w
  · rwa [hs]
  · rw [hs]
    refine ⟨hl, he, ?_⟩
    intro e hm
    obtain hm | rfl := by simpa [Ledger.push] using hm
    · exact h.isLine e hm
    · exact Phrase.isLine_of_parse hp

lemma Reached.regular (h : Reached σ s) : s.Regular := by
  induction h with
  | start constants => exact regular_start constants
  | step line w _ ih => exact ih.step line w

end Session

end QuantityCalculator
