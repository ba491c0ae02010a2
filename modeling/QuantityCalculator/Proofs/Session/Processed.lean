import QuantityCalculator.Proofs.Session.Reached
import QuantityCalculator.Proofs.Typesetting.Rows

/-!
What is read can be typeset and evaluated, so that no line that is read spoils the document.
-/

namespace QuantityCalculator

lemma Entry.line_eq {e : Entry} (h : e.phrase.IsLine) : ∃ t, e.line = .ok t := by
  obtain ⟨r, hr⟩ := h.row_eq
  rw [Entry.line, hr]
  rcases r with t | - | -
  · simp only [bind, Except.bind]
    split
    · exact ⟨_, rfl⟩
    · split <;> exact ⟨_, rfl⟩
  · exact ⟨_, rfl⟩
  · exact ⟨_, rfl⟩

lemma mapM_ok {α β : Type} {f : α → Except Error β} {l : List α} (h : ∀ a ∈ l, ∃ b, f a = .ok b) :
    ∃ bs, l.mapM f = .ok bs := by
  induction l with
  | nil => exact ⟨[], rfl⟩
  | cons a l ih =>
    obtain ⟨b, hb⟩ := h a (by simp)
    obtain ⟨bs, hbs⟩ := ih fun c hc => h c (by simp [hc])
    refine ⟨b :: bs, ?_⟩
    rw [List.mapM_cons, hb, hbs]
    rfl

lemma Ledger.document_eq {l : Ledger} (h : ∀ e ∈ l.entries, e.phrase.IsLine) :
    ∃ d, l.document = .ok d := by
  obtain ⟨ts, hts⟩ := mapM_ok fun e he => Entry.line_eq (h e he)
  rw [Ledger.document, hts]
  exact ⟨_, rfl⟩

namespace Session

variable {σ : Type} [Storage (StateM σ)] {s : Session}

lemma Regular.error_eq_storage (h : s.Regular) {line path : String} {w : σ} {e : Error}
    (hp : Phrase.parse line = .ok (.render path)) (he : (s.step line w).1 = .error e) :
    ∃ e', e = .storage e' := by
  obtain ⟨d, hd⟩ := Ledger.document_eq h.isLine
  rw [Session.step, runLine, hp] at he
  simp only [execute, Phrase.run_render, render, hd, bind, StateT.bind] at he
  rcases hw : (Storage.write path d : StateM σ (Except StorageError Unit)) w with ⟨e' | u, w'⟩
  · rw [hw] at he
    cases he
    exact ⟨e', rfl⟩
  · rw [hw] at he
    cases he

/-- What is read can be processed. Any line that is read can be typeset. In any session that lines lead
to, its evaluation comes to no error but an expected one, unless calls nest deeper than `n`; the ledger
can be typeset as well, so that a line that says to render fails only where the document cannot be
stored. -/
theorem read_lines_are_processed :
    (∀ line p, Phrase.parse line = .ok p → ∃ r, p.row = .ok r) ∧
    ∀ s, Reached σ s →
      (∀ line p, Phrase.parse line = .ok p → ∀ n e, (p.run n s.environment).1 = .error e →
        e ≠ .callsTooDeep → e.IsExpected) ∧
      (∃ d, s.ledger.document = .ok d) ∧
      ∀ line path, Phrase.parse line = .ok (.render path) → ∀ (w : σ) e,
        (s.step line w).1 = .error e → ∃ e', e = .storage e' := by
  refine ⟨fun line p hp => (Phrase.isLine_of_parse hp).row_eq, fun s h => ⟨?_, ?_, ?_⟩⟩
  · intro line p hp n e he hn
    obtain ⟨r, env, hr, hq⟩ :=
      (Phrase.isLine_of_parse hp).run h.regular.checked h.regular.locals_eq n
    obtain rfl : r = .error e := by rwa [hr] at he
    exact hq.2.resolve_left hn
  · exact Ledger.document_eq h.regular.isLine
  · intro line path hp w e he
    exact h.regular.error_eq_storage hp he

theorem two_failing_lines : Reached Folder (start false) ∧
    Phrase.parse "y" = .ok (.evaluate (.access "y")) ∧
    ((Phrase.evaluate (.access "y")).run 0 (start false).environment).1 = .error (.undefinedName "y") ∧
    (Error.undefinedName "y").IsExpected ∧
    Phrase.parse ":render .." = .ok (.render "..") ∧
    ∃ e, ((start false).step ":render .." ({} : Folder)).1 = .error (.storage e) := by
  have h : Reached Folder (start false) := .start false
  have hy : Phrase.parse "y" = .ok (.evaluate (.access "y")) := by
    with_unfolding_all rfl
  have he : ((Phrase.evaluate (.access "y")).run 0 (start false).environment).1 =
      .error (.undefinedName "y") := rfl
  have hp : Phrase.parse ":render .." = .ok (.render "..") := by with_unfolding_all rfl
  have hs : ((start false).step ":render .." ({} : Folder)).1 = .error (.storage .isADirectory) := by
    rw [Session.step, runLine, hp]
    simp only [execute, Phrase.run_render]
    rfl
  obtain ⟨hv, -, hr⟩ := read_lines_are_processed.2 _ h
  obtain ⟨e, heq⟩ := hr _ _ hp {} _ hs
  exact ⟨h, hy, he, hv _ _ hy 0 _ he (by simp), hp, e, heq ▸ hs⟩

end Session

end QuantityCalculator
