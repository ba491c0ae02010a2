import QuantityCalculator.Proofs.Action
import QuantityCalculator.Proofs.Session.Input

/-!
A dialogue is a fold over lines. Main statement: it comes to what its lines come to one after the other
through the first that ends the session, and what is written on a terminal is what is written otherwise,
with prompts and a word on each document that was stored put in.
-/

namespace QuantityCalculator

abbrev Result :=
  Except Error Outcome

namespace Result

def isExit : Result → Bool
  | .ok (.signal .exit) => true
  | _ => false

def failed : Result → Bool
  | .error _ => true
  | _ => false

def valueText : Result → String
  | .ok (.value q) => q.display ++ "\n"
  | _ => ""

def storedText : Result → String
  | .ok (.signal (.render path)) => "wrote " ++ path ++ "\n"
  | _ => ""

def errorText : Result → String
  | .error e => "Error: " ++ e.message ++ "\n"
  | _ => ""

end Result

variable {σ : Type} [Storage (StateM σ)]

def Session.runUntilExit (s : Session) : List String → StateM σ (List Result × Session)
  | [] => return ([], s)
  | line :: lines => do
    let (r, s) ← s.runLine line
    if Result.isExit r then return ([r], s) else
      let (rs, s) ← s.runUntilExit lines
      return (r :: rs, s)

namespace Dialogue

def texts : List Line → List String
  | some line :: lines => line :: texts lines
  | _ => []

def trimmed (line : String) : String :=
  String.ofList (Text.trim line.toList)

/-- The lines that are run, unless one before them ends the session. -/
def commands (lines : List Line) : List String :=
  ((texts lines).map trimmed).filter fun line => !isIdle line

/-- What comes of each reading, where these are the results of the lines that are run: a result, or
nothing if the line is not run, or none is read. -/
def readings : List Line → List Result → List (Option Result)
  | some line :: lines, results =>
    if isIdle (trimmed line) then none :: readings lines results else
      match results with
      | [] => []
      | r :: rs => some r :: (if r.isExit then [] else readings lines rs)
  | _, _ => [none]

def terminalText : Option Result → String
  | some r => ">>> " ++ r.valueText ++ r.storedText
  | none => ">>> "

def transcript (interactive : Bool) (lines : List Line) (results : List Result) : Transcript where
  out :=
    if interactive then String.join ((readings lines results).map terminalText)
    else String.join (results.map Result.valueText)
  err := String.join (results.map Result.errorText)
  failures := results.countP Result.failed

def ending (lines : List Line) (results : List Result) : Ending :=
  if results.any Result.isExit ∨ ∀ line ∈ lines, line.isSome then .finished else .notText

/-- These lines come to these results, and lead to another session and another state of the world. -/
inductive Runs : Session → σ → List Line → List Result → Session → σ → Prop
  | finished {s w} : Runs s w [] [] s w
  | notText {s w lines} : Runs s w (none :: lines) [] s w
  | idle {s w line lines rs t v} : isIdle (trimmed line) → Runs s w lines rs t v →
      Runs s w (some line :: lines) rs t v
  | exit {s w line lines r t v} : isIdle (trimmed line) = false →
      (s.runLine (trimmed line) : StateM σ _) w = ((r, t), v) → r.isExit →
      Runs s w (some line :: lines) [r] t v
  | next {s w line lines r s' w' rs t v} : isIdle (trimmed line) = false →
      (s.runLine (trimmed line) : StateM σ _) w = ((r, s'), w') → r.isExit = false →
      Runs s' w' lines rs t v → Runs s w (some line :: lines) (r :: rs) t v

variable {s s' t : Session} {w w' v : σ} {line : String} {lines more : List Line} {r : Result}
  {rs : List Result} {interactive : Bool}

lemma exists_runs (s : Session) (w : σ) (lines : List Line) : ∃ rs t v, Runs s w lines rs t v := by
  induction lines generalizing s w with
  | nil => exact ⟨_, _, _, .finished⟩
  | cons l lines ih =>
    rcases l with _ | line
    · exact ⟨_, _, _, .notText⟩
    · rcases hr : (s.runLine (trimmed line) : StateM σ (Result × Session)) w with ⟨⟨r, s'⟩, w'⟩
      cases hi : isIdle (trimmed line) with
      | true =>
        obtain ⟨rs, t, v, h⟩ := ih s w
        exact ⟨rs, t, v, .idle hi h⟩
      | false =>
        cases he : Result.isExit r with
        | true => exact ⟨[r], s', w', .exit hi hr he⟩
        | false =>
          obtain ⟨rs, t, v, h⟩ := ih s' w'
          exact ⟨r :: rs, t, v, .next hi hr he h⟩

lemma commands_of_idle (h : isIdle (trimmed line)) :
    commands (some line :: lines) = commands lines := by
  simp [commands, texts, h]

lemma commands_of_command (h : isIdle (trimmed line) = false) :
    commands (some line :: lines) = trimmed line :: commands lines := by
  simp [commands, texts, h]

lemma Runs.runUntilExit (h : Runs s w lines rs t v) :
    s.runUntilExit (commands lines) w = ((rs, t), v) := by
  induction h with
  | finished | notText => rfl
  | idle hi _ ih => rw [commands_of_idle hi, ih]
  | exit hi hr he =>
    rw [commands_of_command hi, Session.runUntilExit, bind_of_eq hr]
    simp only [he, if_true]
    rfl
  | next hi hr he _ ih =>
    rw [commands_of_command hi, Session.runUntilExit, bind_of_eq hr]
    simp only [he, Bool.false_eq_true, if_false]
    rw [bind_of_eq ih]
    rfl

lemma Runs.readings (h : Runs s w lines rs t v) : (readings lines rs).filterMap id = rs := by
  induction h with
  | finished | notText => rfl
  | idle hi _ ih => simpa [Dialogue.readings, hi] using ih
  | exit hi _ he => simp [Dialogue.readings, hi, he]
  | next hi _ he _ ih => simpa [Dialogue.readings, hi, he] using ih

lemma append_eq (a b : Transcript) :
    a ++ b = ⟨a.out ++ b.out, a.err ++ b.err, a.failures + b.failures⟩ :=
  rfl

lemma report_eq (interactive : Bool) (r : Result) :
    report interactive r = ⟨r.valueText ++ (if interactive then r.storedText else ""), r.errorText,
      if r.failed then 1 else 0⟩ := by
  rcases r with e | q | path | - | - <;> cases interactive <;>
    simp [report, Result.valueText, Result.storedText, Result.errorText, Result.failed]

lemma respond_of_idle (h : isIdle (trimmed line)) :
    (respond interactive s line : StateM σ (Bool × Transcript × Session)) w = ((true, {}, s), w) := by
  rw [trimmed] at h
  simp only [respond, h, if_true]
  rfl

lemma respond_of_command (h : isIdle (trimmed line) = false)
    (hr : (s.runLine (trimmed line) : StateM σ (Result × Session)) w = ((r, s'), w')) :
    (respond interactive s line : StateM σ (Bool × Transcript × Session)) w =
      ((!r.isExit, report interactive r, s'), w') := by
  rw [trimmed] at h hr
  rw [respond, if_neg (by simp [h]), bind_of_eq hr]
  rcases r with e | q | path | - | - <;> rfl

lemma transcript_of_idle (h : isIdle (trimmed line)) :
    transcript interactive (some line :: lines) rs =
      prompt interactive ++ {} ++ transcript interactive lines rs := by
  cases interactive <;> simp [transcript, Dialogue.readings, terminalText, h, prompt, append_eq]

lemma transcript_of_exit (h : isIdle (trimmed line) = false) (hr : r.isExit) :
    transcript interactive (some line :: lines) [r] = prompt interactive ++ report interactive r := by
  cases interactive <;>
    simp [transcript, Dialogue.readings, terminalText, h, hr, prompt, report_eq, append_eq,
      List.countP_cons, String.append_assoc]

lemma transcript_of_next (h : isIdle (trimmed line) = false) (hr : r.isExit = false) :
    transcript interactive (some line :: lines) (r :: rs) =
      prompt interactive ++ report interactive r ++ transcript interactive lines rs := by
  cases interactive <;>
    simp [transcript, Dialogue.readings, terminalText, h, hr, prompt, report_eq, append_eq,
      List.countP_cons, Nat.add_comm, String.append_assoc]

lemma ending_of_exit (hr : r.isExit) : ending lines [r] = .finished := by
  simp [ending, hr]

lemma ending_cons (line : String) (lines : List Line) (rs : List Result) :
    ending (some line :: lines) rs = ending lines rs := by
  simp [ending]

lemma ending_of_next (hr : r.isExit = false) : ending lines (r :: rs) = ending lines rs := by
  simp [ending, hr]

/-- What stands after a line that ends the session is not read. -/
lemma Runs.run (h : Runs s w lines rs t v) (hm : more = [] ∨ rs.any Result.isExit)
    (interactive : Bool) :
    (Dialogue.run interactive s (lines ++ more) : StateM σ (Ending × Transcript × Session)) w =
      ((ending lines rs, transcript interactive lines rs, t), v) := by
  induction h with
  | finished =>
    obtain rfl | he := hm
    · cases interactive <;> rfl
    · cases he
  | notText => cases interactive <;> rfl
  | idle hi _ ih =>
    rw [List.cons_append, Dialogue.run, bind_of_eq (respond_of_idle hi), ending_cons,
      transcript_of_idle hi]
    simp only [if_true]
    rw [bind_of_eq (ih hm)]
    rfl
  | exit hi hr he =>
    rw [List.cons_append, Dialogue.run, bind_of_eq (respond_of_command hi hr), ending_of_exit he,
      transcript_of_exit hi he]
    simp only [he]
    rfl
  | next hi hr he _ ih =>
    rw [List.cons_append, Dialogue.run, bind_of_eq (respond_of_command hi hr), ending_cons,
      ending_of_next he, transcript_of_next hi he]
    simp only [he, Bool.not_false, if_true]
    rw [bind_of_eq (ih (hm.imp_right fun h => by simpa [he] using h))]
    rfl

lemma texts_of_toUTF8 (text : String) :
    texts (linesOfBytes text.toUTF8.data.toList) = (splitLines '\n' text.toList).map String.ofList := by
  rw [linesOfBytes_toUTF8, linesOfText]
  induction splitLines '\n' text.toList with
  | nil => rfl
  | cons p ps ih => rw [List.map_cons, texts, ih, List.map_cons]

lemma isSome_of_toUTF8 (text : String) :
    ∀ line ∈ linesOfBytes text.toUTF8.data.toList, line.isSome := by
  rw [linesOfBytes_toUTF8, linesOfText, List.forall_mem_map]
  exact fun _ _ => rfl

/-- A dialogue is its lines, trimmed and without blank lines and comments, run one after the other
through the first that ends the session. It counts their failures and writes their messages and their
values. On a terminal it writes a prompt for each reading as well, and a word on each document that was
stored, and all else is the same. What stands after a line that ends the session has no part in it, and
a line that is not text ends it early. The lines of bytes that encode a text are those between its line
feeds. -/
theorem run_is_fold (s : Session) (lines : List Line) (w : σ) :
    ∃ rs t v ending, s.runUntilExit (commands lines) w = ((rs, t), v) ∧
      (Dialogue.run false s lines : StateM σ _) w = ((ending, {
        out := String.join (rs.map Result.valueText)
        err := String.join (rs.map Result.errorText)
        failures := rs.countP Result.failed }, t), v) ∧
      (Dialogue.run true s lines : StateM σ _) w = ((ending, {
        out := String.join ((readings lines rs).map terminalText)
        err := String.join (rs.map Result.errorText)
        failures := rs.countP Result.failed }, t), v) ∧
      (readings lines rs).filterMap id = rs ∧
      (rs.any Result.isExit → ∀ interactive more,
        (Dialogue.run interactive s (lines ++ more) : StateM σ _) w =
          (Dialogue.run interactive s lines : StateM σ _) w) ∧
      (ending = .finished ↔ rs.any Result.isExit ∨ ∀ line ∈ lines, line.isSome) ∧
      ∀ text : String, lines = linesOfBytes text.toUTF8.data.toList → ending = .finished ∧
        texts lines = (splitLines '\n' text.toList).map String.ofList ∧
        Lines '\n' text.toList (splitLines '\n' text.toList) := by
  obtain ⟨rs, t, v, h⟩ := exists_runs s w lines
  have hr (interactive : Bool) := h.run (.inl rfl) interactive
  simp only [List.append_nil] at hr
  have he : ending lines rs = .finished ↔ rs.any Result.isExit ∨ ∀ line ∈ lines, line.isSome := by
    rw [ending]
    split
    · next he => exact iff_of_true rfl he
    · next he => exact iff_of_false nofun he
  refine ⟨rs, t, v, ending lines rs, h.runUntilExit, hr false, hr true, h.readings, ?_, he, ?_⟩
  · intro hx interactive more
    rw [h.run (.inr hx), hr]
  · rintro text rfl
    exact ⟨he.mpr (.inr (isSome_of_toUTF8 text)), texts_of_toUTF8 text, lines_splitLines _ _⟩

end Dialogue

end QuantityCalculator
