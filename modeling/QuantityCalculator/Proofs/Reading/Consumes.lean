import QuantityCalculator.Proofs.Reading.Settles

/-!
Readers by what they have read: the tokens that they took, and the charges that they needed.
-/

namespace QuantityCalculator.Parse

open Grammar

variable {α β : Type} {x : Parse α} {f : α → Parse β} {s s' s₁ : Parser} {a : α} {b : β}
  {t : Token} {ts us : List Token} {j k : Nat} {e : Error}

lemma ok_of_ofUnit {r : Except UnitError α} (h : ofUnit r s = (.ok a, s')) : r = .ok a ∧ s = s' := by
  cases r with
  | error => cases h
  | ok =>
    cases h
    exact ⟨rfl, rfl⟩

/-- From `s` to `s'` the tokens `ts` are read, with at most `k` charges at once. -/
structure Consumes (s s' : Parser) (ts : List Token) (k : Nat) : Prop where
  source_eq : s'.source = s.source
  tokens_eq : s.tokens = ts ++ s'.tokens
  depth_eq : s'.depth = s.depth
  depth_le : s.depth + k ≤ limit

lemma Consumes.refl (h : s.depth ≤ limit) : Consumes s s [] 0 :=
  ⟨rfl, rfl, rfl, h⟩

lemma Consumes.trans (h : Consumes s s₁ ts j) (h' : Consumes s₁ s' us k) :
    Consumes s s' (ts ++ us) (max j k) := by
  obtain ⟨hs, ht, hd, hl⟩ := h
  obtain ⟨hs', ht', hd', hl'⟩ := h'
  refine ⟨hs'.trans hs, ?_, hd'.trans hd, by omega⟩
  rw [ht, ht', List.append_assoc]

lemma Consumes.cons (h : Consumes { s with tokens := s.tokens.tail } s' ts k)
    (ht : s.tokens = t :: s.tokens.tail) : Consumes s s' (t :: ts) k := by
  obtain ⟨hs, he, hd, hl⟩ := h
  exact ⟨hs, ht.trans (congrArg (t :: ·) he), hd, hl⟩

lemma Consumes.one (h : s.depth ≤ limit) (ht : s.tokens = t :: s.tokens.tail) :
    Consumes s { s with tokens := s.tokens.tail } [t] 0 :=
  ⟨rfl, ht, rfl, h⟩

lemma Consumes.depth_le' (h : Consumes s s' ts k) : s'.depth ≤ limit := by
  obtain ⟨-, -, hd, hl⟩ := h
  omega

lemma cons_of_next {a : Token.Kind} (h : next s.tokens = a) (ha : a ≠ .endOfInput) :
    s.tokens = s.current :: s.tokens.tail ∧ s.current.kind = a := by
  rcases s with ⟨src, _ | ⟨t, ts⟩, d⟩
  · exact absurd h.symm ha
  · exact ⟨rfl, h⟩

lemma Consumes.length_le (h : Consumes s s' ts k) :
    ts.length + s'.tokens.length ≤ s.tokens.length := by
  have ht := congrArg List.length h.tokens_eq
  rw [List.length_append] at ht
  omega

lemma Consumes.length_tail_lt (h : Consumes s s' ts k) (ht : s'.tokens = t :: s'.tokens.tail) :
    s'.tokens.tail.length < s.tokens.length := by
  have hl := h.length_le
  rw [ht, List.length_cons] at hl
  omega

lemma ok_of_expect {a : Token.Kind} (h : expect a s = (.ok t, s')) (ha : a ≠ .endOfInput)
    (hd : s.depth ≤ limit) : Consumes s s' [t] 0 ∧ t.kind = a := by
  rw [expect, current_bind] at h
  split at h
  · next hk =>
    obtain ⟨rfl, rfl⟩ := eq_of_pure (a := s.current) h
    obtain ⟨ht, -⟩ := cons_of_next hk ha
    exact ⟨.one hd ht, hk⟩
  · cases h

lemma ok_of_charge {u : Unit} (h : charge s = (.ok u, s')) :
    s.depth < limit ∧ s' = { s with depth := s.depth + 1 } := by
  by_cases hd : s.depth < limit
  · rw [charge_of_lt hd] at h
    cases h
    exact ⟨hd, rfl⟩
  · rw [charge_of_le (by omega)] at h
    cases h

lemma ok_of_charged (h : charged x s = (.ok a, s')) :
    s.depth < limit ∧ ∃ s₁, x { s with depth := s.depth + 1 } = (.ok a, s₁) ∧
      s' = { s₁ with depth := s₁.depth - 1 } := by
  obtain ⟨_, _, hc, h⟩ := ok_of_bind h
  obtain ⟨hd, rfl⟩ := ok_of_charge hc
  obtain ⟨a', s₁, hx, h⟩ := ok_of_bind h
  cases h
  exact ⟨hd, s₁, hx, rfl⟩

lemma Consumes.charged (h : Consumes { s with depth := s.depth + 1 } s₁ ts k) :
    Consumes s { s₁ with depth := s₁.depth - 1 } ts (k + 1) := by
  obtain ⟨hs, ht, hd, hl⟩ := h
  refine ⟨hs, ht, ?_, ?_⟩ <;> simp only at hd hl ⊢ <;> omega

lemma ok_of_unit {p : Phrase} (h : unit s = (.ok p, s')) (hd : s.depth ≤ limit)
    (hu : isUnit (next s.tokens)) :
    ∃ u fs, Consumes s s' [u] 0 ∧ u.kind = next s.tokens ∧ Resolves u.text fs ∧ p = .unit fs := by
  have hn : next s.tokens ≠ .endOfInput := by rintro he; simp [he, isUnit] at hu
  obtain ⟨ht, hk⟩ := cons_of_next rfl hn
  rw [unit, current_bind] at h
  by_cases he : s.current.text = ""
  · rw [if_pos he] at h
    cases h
  · rw [if_neg he] at h
    obtain ⟨fs, s₁, hx, h⟩ := ok_of_bind h
    obtain ⟨hs, rfl⟩ := ok_of_ofUnit hx
    obtain ⟨v, s₂, hx, h⟩ := ok_of_bind h
    obtain ⟨hv, rfl⟩ := ok_of_ofUnit hx
    cases h
    exact ⟨_, fs, .one hd ht, hk, ⟨he, hs, v, hv⟩, rfl⟩

lemma ok_of_separated {item : Parse α} {n : Nat} {as : List α}
    (h : separated item (n + 1) s = (.ok as, s')) :
    ∃ a s₁, item s = (.ok a, s₁) ∧ (as = [a] ∧ s' = s₁ ∨ next s₁.tokens = .comma ∧
      ∃ bs, as = a :: bs ∧ separated item n { s₁ with tokens := s₁.tokens.tail } = (.ok bs, s')) := by
  obtain ⟨a, s₁, ha, h⟩ := ok_of_bind h
  rw [currentKind_bind] at h
  refine ⟨a, s₁, ha, ?_⟩
  by_cases hc : next s₁.tokens = .comma
  · rw [if_pos hc, advance_bind] at h
    obtain ⟨bs, s₂, hb, h⟩ := ok_of_bind h
    cases h
    exact .inr ⟨hc, bs, rfl, hb⟩
  · rw [if_neg hc] at h
    cases h
    exact .inl ⟨rfl, rfl⟩

lemma ok_of_listOf {item : Parse α} {as : List α} (h : listOf item s = (.ok as, s')) :
    ∃ o s₁, expect .openParen s = (.ok o, s₁) ∧
      (next s₁.tokens = .closeParen ∧ as = [] ∧ s' = { s₁ with tokens := s₁.tokens.tail } ∨
        ∃ s₂ c, separated item s₁.tokens.length s₁ = (.ok as, s₂) ∧
          expect .closeParen s₂ = (.ok c, s')) := by
  obtain ⟨o, s₁, ho, h⟩ := ok_of_bind h
  rw [currentKind_bind] at h
  refine ⟨o, s₁, ho, ?_⟩
  by_cases hc : next s₁.tokens = .closeParen
  · rw [if_pos hc, advance_bind] at h
    cases h
    exact .inl ⟨hc, rfl, rfl⟩
  · rw [if_neg hc, get_bind] at h
    obtain ⟨bs, s₂, hb, h⟩ := ok_of_bind h
    obtain ⟨c, s₃, hc, h⟩ := ok_of_bind h
    cases h
    exact .inr ⟨s₂, c, hb, hc⟩

end QuantityCalculator.Parse
