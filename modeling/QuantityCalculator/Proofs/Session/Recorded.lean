import QuantityCalculator.Proofs.Session.Atomic

/-!
What a ledger records. Main statement: each entry was read from a line, and holds a value if the line
is an expression, and nothing if it is a definition.
-/

namespace QuantityCalculator

open Eval

namespace Phrase

inductive Yields : Phrase → Outcome → Prop
  | value {p q} : p.IsExpression → Yields p (.value q)
  | define {x p} : p.IsExpression → Yields (.define x p) (.signal .nothing)
  | defineFunction {f xs p} : p.IsExpression → Yields (.defineFunction f xs p) (.signal .nothing)

/-- What a line of each kind comes to, if it does not fail. -/
inductive ComesTo : Phrase → Outcome → Prop
  | evaluate {p o} : Yields p o → ComesTo (.evaluate p) o
  | exclude {p o} : Yields p o → ComesTo (.exclude p) o
  | render {path} : ComesTo (.render path) (.signal (.render path))
  | newline : ComesTo .newline (.signal .nothing)
  | exit : ComesTo .exit (.signal .exit)
  | quit : ComesTo .quit (.signal .exit)

variable {p : Phrase} {env : Environment} {o : Outcome} {n : Nat}

lemma IsStatement.yields (hp : p.IsStatement) (he : env.Checked) (h : (p.run n env).1 = .ok o) :
    p.Yields o := by
  cases hp with
  | expression hp =>
    obtain ⟨r, hr, hv⟩ := hp.computes he n
    obtain rfl : r = .ok o := by simpa [hr] using h
    obtain ⟨q, rfl⟩ := hv
    exact .value hp
  | @define x p hp =>
    obtain ⟨e | q, hr, -⟩ := (hp.computes he n).quantity
    · rw [run_define, bind_of_error hr] at h
      cases h
    · rw [run_define, bind_of_ok hr] at h
      cases h
      exact .define hp
  | defineFunction hp =>
    rw [run_defineFunction] at h
    cases h
    exact .defineFunction hp

lemma IsLine.comesTo (hp : p.IsLine) (he : env.Checked) (h : (p.run n env).1 = .ok o) :
    p.ComesTo o := by
  cases hp with
  | evaluate hp =>
    rw [run_evaluate] at h
    exact .evaluate (hp.yields he h)
  | exclude hp =>
    rw [run_exclude] at h
    exact .exclude (hp.yields he h)
  | render =>
    rw [run_render] at h
    cases h
    exact .render
  | newline =>
    rw [run_newline] at h
    cases h
    exact .newline
  | exit =>
    rw [run_exit] at h
    cases h
    exact .exit
  | quit =>
    rw [run_quit] at h
    cases h
    exact .quit

end Phrase

structure Entry.Recorded (e : Entry) : Prop where
  line : ∃ line, Phrase.parse line = .ok e.phrase
  comesTo : e.phrase.ComesTo e.outcome
  goesOn : e.outcome ≠ .signal .exit

namespace Session

variable {σ : Type} [Storage (StateM σ)] {s : Session}

lemma run_of_step {line : String} {w : σ} {o : Outcome} (h : (s.step line w).1 = .ok o) :
    ∃ p, Phrase.parse line = .ok p ∧ (p.run Phrase.callLimit s.environment).1 = .ok o := by
  rcases hp : Phrase.parse line with e | p
  · rw [step, runLine, hp] at h
    cases h
  · refine ⟨p, rfl, ?_⟩
    rw [step, runLine, hp] at h
    rcases hr : p.run Phrase.callLimit s.environment with ⟨e | q | path | - | -, env⟩
    · simp only [execute, hr] at h
      cases h
    · simp only [execute, hr] at h
      exact h
    · rcases hw : (({ s with environment := env } : Session).render path :
        StateM σ (Except Error Unit)) w with ⟨e | u, w'⟩
      · simp only [execute, hr, bind, StateT.bind, hw] at h
        cases h
      · simp only [execute, hr, bind, StateT.bind, hw] at h
        exact h
    · simp only [execute, hr] at h
      exact h
    · simp only [execute, hr] at h
      exact h

lemma Regular.entries_step (h : s.Regular) (line : String) (w : σ) :
    (s.step line w).2.ledger.entries = s.ledger.entries ∨
      ∃ e : Entry, e.Recorded ∧ (s.step line w).2.ledger.entries = s.ledger.entries ++ [e] := by
  obtain ⟨-, hs⟩ | ⟨p, o, env, hp, ho, hs, -⟩ := h.step_cases line w
  · exact .inl (by rw [hs])
  · have hr : (s.step line w).1 = .ok o := by rw [hs]
    obtain ⟨p', hp', hr⟩ := run_of_step hr
    obtain rfl : p = p' := by simpa [hp] using hp'
    have hc := (Phrase.isLine_of_parse hp).comesTo h.checked hr
    exact .inr ⟨⟨p, o⟩, ⟨⟨line, hp⟩, hc, ho⟩, by rw [hs]; rfl⟩

lemma Reached.recorded (h : Reached σ s) : ∀ e ∈ s.ledger.entries, e.Recorded := by
  induction h with
  | start => nofun
  | step line w hs ih =>
    obtain he | ⟨e, hr, he⟩ := hs.regular.entries_step line w
    · rwa [he]
    · rw [he, List.forall_mem_append]
      exact ⟨ih, by simpa using hr⟩

lemma Reached.runLines (h : Reached σ s) (lines : List (String × σ)) :
    Reached σ (s.runLines lines).2 := by
  induction lines generalizing s with
  | nil => exact h
  | cons l lines ih => exact ih (h.step l.1 l.2)

lemma Reached.entries_runLines (h : Reached σ s) (lines : List (String × σ)) :
    ∃ es, (s.runLines lines).2.ledger.entries = s.ledger.entries ++ es := by
  induction lines generalizing s with
  | nil => exact ⟨[], (List.append_nil _).symm⟩
  | cons l lines ih =>
    obtain ⟨es, hs⟩ := ih (h.step l.1 l.2)
    obtain he | ⟨e, -, he⟩ := h.regular.entries_step l.1 l.2
    · exact ⟨es, by rw [Session.runLines, hs, he]⟩
    · exact ⟨e :: es, by rw [Session.runLines, hs, he, List.append_assoc]; rfl⟩

end Session

end QuantityCalculator
