import QuantityCalculator.Proofs.Session.Reached

/-!
Lines are atomic: what fails, or ends the session, could as well not have been there.
-/

namespace QuantityCalculator.Session

variable {σ : Type} [Storage (StateM σ)] {s : Session}

/-- Runs lines one after the other, each in a world of its own. -/
def runLines (s : Session) : List (String × σ) → List (Except Error Outcome) × Session
  | [] => ([], s)
  | (line, w) :: rest =>
    let (results, last) := (s.step line w).2.runLines rest
    ((s.step line w).1 :: results, last)

def kept {α : Type} (lines : List α) (results : List (Except Error Outcome)) :
    List (α × Except Error Outcome) :=
  (lines.zip results).filter fun p => Counts p.2

lemma kept_cons {α : Type} (line : α) (lines : List α) (r : Except Error Outcome)
    (results : List (Except Error Outcome)) :
    kept (line :: lines) (r :: results) =
      if Counts r then (line, r) :: kept lines results else kept lines results := by
  rw [kept, List.zip_cons_cons, List.filter_cons]
  simp only [decide_eq_true_eq]
  rfl

lemma Regular.runLines_kept (h : s.Regular) (lines : List (String × σ)) :
    s.runLines ((kept lines (s.runLines lines).1).map Prod.fst) =
      ((kept lines (s.runLines lines).1).map Prod.snd, (s.runLines lines).2) := by
  induction lines generalizing s with
  | nil => rfl
  | cons l lines ih =>
    obtain ⟨line, w⟩ := l
    have hi := ih (h.step line w)
    rw [runLines, kept_cons]
    obtain ⟨hn, hs⟩ | ⟨p, o, env, -, ho, hs, -⟩ := h.step_cases line w
    · rw [if_neg hn]
      rw [hs] at hi ⊢
      exact hi
    · have hc : Counts (s.step line w).1 := by rwa [hs]
      rw [if_pos hc, List.map_cons, List.map_cons, runLines, hi]

/-- Runs lines one after the other in one world. -/
def runThrough (s : Session) : List String → StateM σ (List (Except Error Outcome) × Session)
  | [] => return ([], s)
  | line :: lines => do
    let (r, s) ← s.runLine line
    let (results, s) ← s.runThrough lines
    return (r :: results, s)

lemma runThrough_cons {line : String} {r : Except Error Outcome} {s' : Session} {w w' : σ}
    (h : (s.runLine line : StateM σ (Except Error Outcome × Session)) w = ((r, s'), w'))
    (lines : List String) :
    s.runThrough (line :: lines) w =
      ((r :: (s'.runThrough lines w').1.1, (s'.runThrough lines w').1.2),
        (s'.runThrough lines w').2) := by
  simp only [runThrough, bind, StateT.bind, h]
  rfl

def Tidy (σ : Type) [Storage (StateM σ)] : Prop :=
  ∀ (path text : String) (w w' : σ) (e : StorageError),
    (Storage.write path text : StateM σ (Except StorageError Unit)) w = (.error e, w') → w' = w

lemma tidy_folder : Tidy Folder := by
  intro path text w w' e h
  rcases hf : w.write path text with e' | f
  · simp only [Storage.write, hf] at h
    cases h
    rfl
  · simp only [Storage.write, hf] at h
    cases h

lemma Tidy.runLine_eq (hw : Tidy σ) {line : String} {w : σ} (hn : ¬ Counts (s.step line w).1) :
    ((s.runLine line : StateM σ (Except Error Outcome × Session)) w).2 = w := by
  rw [step] at hn
  rcases hp : Phrase.parse line with e | p
  · simp only [runLine, hp]
    rfl
  · simp only [runLine, hp, execute] at hn ⊢
    rcases hr : p.run Phrase.callLimit s.environment with ⟨e | o, env⟩
    · rfl
    · simp only [hr] at hn ⊢
      rcases o with q | path | - | -
      · rfl
      · rcases hd : s.ledger.document with e | text
        · simp only [render, hd]
          rfl
        · rcases hs : (Storage.write path text : StateM σ (Except StorageError Unit)) w
            with ⟨e | u, w'⟩
          · simp only [render, hd, bind, StateT.bind, hs]
            exact hw path text w w' e hs
          · simp only [render, hd, bind, StateT.bind, hs] at hn
            have hc : Counts (.ok (.signal (.render path))) := by simp [Counts]
            exact absurd hc hn
      · rfl
      · rfl

/-- In a tidy world the lines that are not recorded can be deleted even if the others are run one after
the other without them. -/
theorem runThrough_kept (hw : Tidy σ) (h : Reached σ s) (lines : List String) (w : σ) :
    s.runThrough ((kept lines (s.runThrough lines w).1.1).map Prod.fst) w =
      (((kept lines (s.runThrough lines w).1.1).map Prod.snd, (s.runThrough lines w).1.2),
        (s.runThrough lines w).2) := by
  induction lines generalizing s w with
  | nil => rfl
  | cons line lines ih =>
    rcases hr : (s.runLine line : StateM σ (Except Error Outcome × Session)) w with ⟨⟨r, s'⟩, w'⟩
    have hs : s.step line w = (r, s') := by rw [step, hr]
    have hi := ih (h.step line w) w'
    rw [hs] at hi
    rw [runThrough_cons hr, kept_cons]
    by_cases hc : Counts r
    · rw [if_pos hc, List.map_cons, runThrough_cons hr, hi]
      rfl
    · -- What is not recorded has left the session and the world as they were.
      have hn : ¬ Counts (s.step line w).1 := by rwa [hs]
      obtain ⟨-, hq⟩ | ⟨p, o, env, -, ho, hq, -⟩ := h.regular.step_cases line w
      · obtain rfl : s' = s := by rw [← hq, hs]
        obtain rfl : w' = w := by
          have := hw.runLine_eq hn
          rwa [hr] at this
        rw [if_neg hc]
        exact hi
      · rw [hq] at hn
        exact absurd ho hn

/-- A line that fails or ends the session changes nothing. Any other line adds one entry to the end of
the ledger, and to the environment, which is left with one frame, what the line defines. So whatever
lines are run, those that are not recorded can be deleted: the others come to the same, and the last
session is the same. -/
theorem lines_are_atomic (h : Reached σ s) :
    (∀ line (w : σ),
      (¬ Counts (s.step line w).1 → (s.step line w).2 = s) ∧
      (Counts (s.step line w).1 → ∃ p o, Phrase.parse line = .ok p ∧ (s.step line w).1 = .ok o ∧
        (s.step line w).2.ledger.entries = s.ledger.entries ++ [⟨p, o⟩] ∧
        (s.step line w).2.environment.depth = 1 ∧
        p.OnlyDefines s.environment (s.step line w).2.environment)) ∧
    ∀ lines : List (String × σ),
      s.runLines ((kept lines (s.runLines lines).1).map Prod.fst) =
        ((kept lines (s.runLines lines).1).map Prod.snd, (s.runLines lines).2) := by
  refine ⟨fun line w => ?_, h.regular.runLines_kept⟩
  obtain ⟨hn, hs⟩ | ⟨p, o, env, hp, ho, hs, -, hl, hd⟩ := h.regular.step_cases line w
  · exact ⟨fun _ => hs, fun hc => absurd hc hn⟩
  · rw [hs]
    refine ⟨fun hn => absurd ho hn, fun _ => ⟨p, o, hp, rfl, rfl, ?_, hd⟩⟩
    simp [Environment.depth, Environment.frames, hl]

theorem one_line_of_two_is_recorded : Reached Folder (start true) ∧
    ((start true).step ")" ({} : Folder)).2 = start true ∧
    ((start true).step "f(x) = x" ({} : Folder)).2.ledger.entries.length = 1 := by
  have h : Reached Folder (start true) := .start true
  have hn : ¬ Counts ((start true).step ")" ({} : Folder)).1 := by decide +kernel
  have hc : Counts ((start true).step "f(x) = x" ({} : Folder)).1 := by decide +kernel
  obtain ⟨p, o, -, -, he, -⟩ := ((lines_are_atomic h).1 "f(x) = x" {}).2 hc
  exact ⟨h, ((lines_are_atomic h).1 ")" {}).1 hn, by rw [he]; rfl⟩

end QuantityCalculator.Session
