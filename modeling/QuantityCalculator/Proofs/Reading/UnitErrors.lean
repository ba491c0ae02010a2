import QuantityCalculator.Proofs.Reading.Composes
import QuantityCalculator.Proofs.Scanning.Suffix

/-!
Units that stop reading. Main statement: a word after a number is a unit if all its symbols are known,
and what was taken as one is always read, so that a line is refused for a unit only if it quotes one.
-/

namespace QuantityCalculator.Parse

open Grammar

/-- No unit is quoted, and each that follows a number resolves. -/
def Unquoted (ts : List Token) : Prop :=
  ∀ t ∈ ts, t.kind ≠ .quotedUnit ∧ (t.kind = .unit → ∃ fs, Resolves t.text fs)

variable {ts : List Token} {s : Parser} {e : Error}

lemma Unquoted.tail (h : Unquoted ts) : Unquoted ts.tail :=
  fun t ht => h t (List.mem_of_mem_tail ht)

/-- Where no unit is quoted nothing fails for one, and none is quoted in what is left. -/
lemma charges_unquoted : Charges (fun s s' => Unquoted s.tokens → Unquoted s'.tokens)
    fun e s _ => Unquoted s.tokens → ∀ u, e ≠ .unit u where
  refl _ := id
  trans h h' hs := h' (h hs)
  error h h' hs := h' (h hs)
  refuse _ _ _ _ he := by cases he
  advance _ := Unquoted.tail
  tooDeep _ _ _ he := by cases he
  released h := h
  kept h := h
  emptied _ _ := List.forall_mem_nil _
  unit {s} hu := by
    rcases s with ⟨src, _ | ⟨t, ts⟩, d⟩
    · contradiction
    · obtain ⟨p, h⟩ | ⟨e, h⟩ := unit_takes_or_fails ⟨src, t :: ts, d⟩
      · exact (leads_of_ok h).mpr Unquoted.tail
      · refine (leads_of_error h).mpr fun hs => ?_
        obtain ⟨hq, hr⟩ := hs t List.mem_cons_self
        have hu : isUnit t.kind := hu
        obtain hk | hk : t.kind = .unit ∨ t.kind = .quotedUnit := by simpa [isUnit] using hu
        · obtain ⟨fs, hr⟩ := hr hk
          rw [unit_of_resolves hr] at h
          cases h
        · exact absurd hk hq

lemma quoted_of_unit_error {s : String} {u : UnitError} (h : Phrase.parse s = .error (.unit u)) :
    ∃ t ∈ (Cursor.ofText s).tokens, t.kind = .quotedUnit := by
  by_contra hn
  push Not at hn
  have hs : Unquoted (Parser.ofText s).tokens :=
    fun t ht => ⟨hn t ht, Cursor.resolves_of_mem_tokens _ ht⟩
  have hl := charges_unquoted.line (s := Parser.ofText s)
  rcases hr : line (Parser.ofText s) with ⟨e | a, s'⟩
  · rw [leads_of_error hr] at hl
    rw [Phrase.parse, hr] at h
    cases h
    exact hl hs u rfl
  · rw [Phrase.parse, hr] at h
    cases h

end QuantityCalculator.Parse

namespace QuantityCalculator.Cursor

open Text Lexeme Parse

lemma factors_of_unit (c : Cursor) {t : Token} (ht : t ∈ c.tokens) (hk : t.kind = .unit) :
    ∃ fs d, fs ≠ [] ∧ Factor.split t.text = .ok fs ∧ Dimension.ofFactors fs = .ok d := by
  obtain ⟨fs, hn, hs, d, hd⟩ := c.resolves_of_mem_tokens ht hk
  refine ⟨fs, d, ?_, hs, hd⟩
  rintro rfl
  obtain ⟨gs, hg, hr⟩ := (Factor.split_eq_ok_iff _).mp hs
  cases hr
  have ht : t.text.toList = [] := by
    generalize t.text.toList = w at hg
    cases hg
    rfl
  exact hn (by simpa using ht)

lemma word_after_number {c : Cursor} {d : Char} {s r : List Char} {gs : List Factor.Segment}
    (ha : c.afterNumber) (hb : (splitBlanks false c.rest).2 = d :: s) (hd : isLetter d)
    (hs : Scan (d :: s) gs r) : gs ≠ [] ∧
      (c.token.kind = .unit ∧ c.token.text = String.ofList (word gs) ↔ IsUnit gs r) ∧
      (IsUnit gs r → c.advance.rest = r) ∧
      (¬ IsUnit gs r → c.token = c.forget.token ∧ c.advance = c.forget.advance) := by
  have hg : gs ≠ [] := by
    intro hg
    have hn := hs.eq_nil_iff.mp hg d rfl
    rw [hd] at hn
    contradiction
  have hforget : ¬ IsUnit gs r → c.token = c.forget.token ∧ c.advance = c.forget.advance := by
    intro hu
    exact token_forget (lexeme_forget ha (hb ▸ hs.unit_of_not_isUnit hg hu))
  have htoken : IsUnit gs r → c.lexeme = verbatim .unit (word gs) r :=
    lexeme_of_isUnit ha hb hs hg
  refine ⟨hg, ⟨?_, fun hu => ?_⟩, fun hu => ?_, hforget⟩
  · rintro ⟨hk, -⟩
    by_contra hu
    rw [(hforget hu).1] at hk
    exact Bool.false_ne_true (letter_of_kind hk).1
  · rw [token, htoken hu]
    exact ⟨rfl, rfl⟩
  · rw [advance, htoken hu]
    rfl

/-- The word after a number is the next token, as a unit, if it ends before no longer name and no call
and all its symbols are known; else the token and what follows it are those that stand where no
number was before. Units follow numbers directly, each is read with one factor at least, and only a
quoted one can be refused. -/
theorem unit_suffix :
    (∀ s, ∃ gs r, Scan s gs r) ∧
    (∀ s gs gs' r r', Scan s gs r → Scan s gs' r' → gs = gs' ∧ r = r') ∧
    (∀ (c : Cursor) d s gs r, c.afterNumber → (splitBlanks false c.rest).2 = d :: s → isLetter d →
      Scan (d :: s) gs r → gs ≠ [] ∧
        (c.token.kind = .unit ∧ c.token.text = String.ofList (word gs) ↔ IsUnit gs r) ∧
        (IsUnit gs r → c.advance.rest = r) ∧
        (¬ IsUnit gs r → c.token = c.forget.token ∧ c.advance = c.forget.advance)) ∧
    (∀ c : Cursor, c.afterNumber →
      (∀ d ∈ (splitBlanks false c.rest).2.head?, isLetter d = false) →
      c.token = c.forget.token ∧ c.advance = c.forget.advance) ∧
    (∀ c : Cursor, c.advance.afterNumber ↔ c.token.kind = .number) ∧
    (∀ c : Cursor, c.token.kind = .unit →
      c.afterNumber ∧ ∃ d, (splitBlanks false c.rest).2.head? = some d ∧ isLetter d) ∧
    (∀ s pre (t : Token) post, (ofText s).tokens = pre ++ t :: post → t.kind = .unit →
      ∃ before u, pre = before ++ [u] ∧ u.kind = .number) ∧
    (∀ (c : Cursor), ∀ t ∈ c.tokens, t.kind = .unit →
      ∃ fs d, fs ≠ [] ∧ Factor.split t.text = .ok fs ∧ Dimension.ofFactors fs = .ok d) ∧
    ∀ s u, Phrase.parse s = .error (.unit u) →
      ∃ t ∈ (ofText s).tokens, t.kind = .quotedUnit := by
  refine ⟨exists_scan, ?unique, ?word, ?other, ?number, ?letter, ?behind, ?factors, ?quoted⟩
  case unique => exact fun s gs gs' r r' h h' => h.unique h'
  case word => exact fun c d s gs r => word_after_number
  case other => exact fun c ha hl => token_forget (lexeme_forget ha (unit_of_not_letter hl))
  case number => exact fun c => decide_eq_true_iff
  case letter => exact fun c => letter_of_kind
  case behind =>
    intro s pre t post h hk
    exact ((ofText s).number_before_unit h hk).resolve_left fun h => Bool.false_ne_true h.2
  case factors => exact fun c t => c.factors_of_unit
  case quoted => exact fun s u => quoted_of_unit_error

end QuantityCalculator.Cursor
