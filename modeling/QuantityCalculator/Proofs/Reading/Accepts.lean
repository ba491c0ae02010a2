import QuantityCalculator.Proofs.Reading.Statement
import QuantityCalculator.Proofs.Scanning.Tokens

/-!
The lines that are read are those of the grammar, within the limit on charges.
-/

namespace QuantityCalculator.Grammar

open Parse

def Derivable (s : String) (p : Phrase) (k : Nat) : Prop :=
  ∃ ts e, (Cursor.ofText s).tokens = ts ++ [e] ∧ e.kind = .endOfInput ∧ Line ts p k

variable {s : String} {p p' : Phrase} {j k : Nat}

lemma Parameters.kind_ne_end {ts : List Token} {xs : List String} (h : Parameters ts xs) :
    ∀ t ∈ ts, t.kind ≠ .endOfInput := by
  induction h with
  | last => simp_all
  | more _ _ _ ih => simp_all

lemma Head.kind_ne_end {ts : List Token} {f : String} {xs : List String} (h : Head ts f xs) :
    ∀ t ∈ ts, t.kind ≠ .endOfInput := by
  cases h with
  | plain => simp_all
  | parameters _ _ hp =>
    have := hp.kind_ne_end
    grind

lemma Statement.kind_ne_end {ts : List Token} (h : Statement ts p k) :
    ∀ t ∈ ts, t.kind ≠ .endOfInput := by
  cases h with
  | expression h => exact fun t ht => (h.kind_ne ht).2
  | define _ _ h =>
    have := fun t ht => (h.kind_ne (t := t) ht).2
    simp_all
  | defineFunction hh h =>
    have := fun t ht => (h.kind_ne (t := t) ht).2
    have := hh.kind_ne_end
    grind

lemma Line.kind_ne_end {ts : List Token} (h : Line ts p k) : ∀ t ∈ ts, t.kind ≠ .endOfInput := by
  cases h with
  | statement h => exact h.kind_ne_end
  | evaluate hk h | exclude hk h =>
    have := h.kind_ne_end
    simp_all [Keyword]
  | newline | exit | quit => simp_all [Keyword]

lemma Derivable.settles (h : Derivable s p k) :
    ∃ s', Settles line (.ofText s) k p s' := by
  obtain ⟨ts, e, ht, he, hl⟩ := h
  rw [Parser.ofText, ht]
  exact ⟨_, hl.read he⟩

/-- What is read up to the end of the input is all of the text. -/
lemma tokens_of_consumes {s' : Parser} {ts : List Token} (hc : Consumes (.ofText s) s' ts k)
    (hts : ∀ t ∈ ts, t.kind ≠ .endOfInput) (he : next s'.tokens = .endOfInput) :
    ∃ e, (Cursor.ofText s).tokens = ts ++ [e] ∧ e.kind = .endOfInput := by
  obtain ⟨us, e, ht, hk, hn⟩ := (Cursor.ofText s).tokens_ends
  have hs : us ++ [e] = ts ++ s'.tokens := ht.symm.trans hc.tokens_eq
  rcases List.eq_nil_or_concat s'.tokens with h' | ⟨vs, e', h'⟩
  · -- The end of the input would be among the tokens that are read.
    have hm : e ∈ ts := by
      rw [h', List.append_nil] at hs
      simp [← hs]
    exact absurd hk (hts e hm)
  · rw [h', List.concat_eq_append, ← List.append_assoc] at hs
    obtain ⟨rfl, rfl⟩ := by simpa using List.append_inj' hs rfl
    rcases vs with _ | ⟨v, vs⟩
    · exact ⟨e, by simpa using ht, hk⟩
    · rw [h'] at he
      exact absurd he (hn v (by simp))

lemma derivable_or_render (h : Phrase.parse s = .ok p) :
    (∃ k, Derivable s p k ∧ k ≤ limit) ∨
      Rendering (Cursor.ofText s).tokens ∧ ∃ path, p = .render path := by
  rcases hx : line (.ofText s) with ⟨r, s'⟩
  obtain rfl : r = .ok p := by simpa [Phrase.parse, hx] using h
  obtain ⟨ts, k, hc, hp, he⟩ | hq := sound_line (Nat.zero_le _) hx
  · obtain ⟨e, ht, hk⟩ := tokens_of_consumes hc hp.kind_ne_end he
    exact .inl ⟨k, ⟨ts, e, ht, hk, hp⟩, by simpa [Parser.ofText] using hc.depth_le⟩
  · exact .inr hq

lemma derivable_of_parse (hr : ¬ Rendering (Cursor.ofText s).tokens) (h : Phrase.parse s = .ok p) :
    ∃ k, Derivable s p k ∧ k ≤ limit :=
  (derivable_or_render h).resolve_right fun hq => hr hq.1

lemma parse_of_derivable (h : Derivable s p k) (hk : k ≤ limit) : Phrase.parse s = .ok p := by
  obtain ⟨s', hs⟩ := h.settles
  rw [Phrase.parse, hs.ok (by simpa [Parser.ofText] using hk)]

lemma parse_of_too_deep (h : Derivable s p k) (hk : limit < k) :
    Phrase.parse s = .error (.parse (.tooDeep limit)) := by
  obtain ⟨s', hs⟩ := h.settles
  obtain ⟨s₁, hx⟩ := hs.tooDeep (by simpa [Parser.ofText] using hk)
  rw [Phrase.parse, hx]

lemma Derivable.unique (h : Derivable s p j) (h' : Derivable s p' k) : p = p' ∧ j = k := by
  obtain ⟨ts, e, ht, -, hl⟩ := h
  obtain ⟨ts', e', ht', -, hl'⟩ := h'
  obtain ⟨rfl, -⟩ := by simpa using List.append_inj' (ht.symm.trans ht') rfl
  exact hl.unique hl'

/-- A text that does not say to render is read as a phrase if and only if its tokens derive that
phrase within the limit on charges. The phrase and the charges are unique. A word that is a unit
resolves, so that only units in quotes are in doubt. -/
theorem parse_eq_ok_iff_derivable (s : String) (hr : ¬ Rendering (Cursor.ofText s).tokens) :
    (∀ p, Phrase.parse s = .ok p ↔ ∃ k, Derivable s p k ∧ k ≤ limit) ∧
    (∀ p k, Derivable s p k → limit < k → Phrase.parse s = .error (.parse (.tooDeep limit))) ∧
    (∀ p j p' k, Derivable s p j → Derivable s p' k → p = p' ∧ j = k) ∧
    ∀ t ∈ (Cursor.ofText s).tokens, t.kind = .unit → ∃ fs, Resolves t.text fs := by
  refine ⟨fun p => ⟨derivable_of_parse hr, ?_⟩, ?_, ?_, ?_⟩
  · rintro ⟨k, h, hk⟩
    exact parse_of_derivable h hk
  · intro p k h hk
    exact parse_of_too_deep h hk
  · intro p j p' k h h'
    exact h.unique h'
  · intro t ht hk
    exact (Cursor.ofText s).resolves_of_mem_tokens ht hk

theorem parse_minus_before_power : ¬ Rendering (Cursor.ofText "-x^y").tokens ∧
    Phrase.parse "-x^y" =
      .ok (.evaluate (.negate (.binary .power (.access "x") (.access "y")))) := by
  have ht : (Cursor.ofText "-x^y").tokens =
      [⟨.minus, "-", ⟨0, 1, 1⟩⟩, ⟨.name, "x", ⟨1, 1, 2⟩⟩, ⟨.caret, "^", ⟨2, 1, 3⟩⟩,
        ⟨.name, "y", ⟨3, 1, 4⟩⟩] ++ [⟨.endOfInput, "", ⟨4, 1, 5⟩⟩] := by
    decide +kernel
  have hr : ¬ Rendering (Cursor.ofText "-x^y").tokens := by
    rintro ⟨c, t, us, hs, hk, -⟩
    rw [ht] at hs
    cases hs
    cases hk
  have hp : Derives .power ([⟨.name, "x", ⟨1, 1, 2⟩⟩] ++ ⟨.caret, "^", ⟨2, 1, 3⟩⟩ ::
      [⟨.name, "y", ⟨3, 1, 4⟩⟩]) (.binary .power (.access "x") (.access "y")) 1 :=
    .raised rfl (.access rfl) (.unary (.power (.access rfl)))
  have hu := Derives.minus (t := ⟨.minus, "-", ⟨0, 1, 1⟩⟩) rfl (.unary hp)
  have hl := Line.statement (.expression (.expression (.term hu .productEnd) .sumEnd))
  exact ⟨hr, ((parse_eq_ok_iff_derivable _ hr).1 _).mpr ⟨_, ⟨_, _, ht, rfl, hl⟩, by decide⟩⟩

end QuantityCalculator.Grammar
