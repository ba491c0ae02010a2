import QuantityCalculator.Proofs.Grammar.Unambiguous
import QuantityCalculator.Proofs.Reading.Sound

/-!
Reading statements and lines, up to the end of the input.
-/

namespace QuantityCalculator.Grammar

open Parse

variable {ts us : List Token} {t e : Token} {f : String} {xs : List String} {p : Phrase}
  {k m : Nat} {src : List Char} {rest : List Token} {s s' : Parser}

lemma Parameters.read (h : Parameters ts xs) (src : List Char) (rest : List Token) {m : Nat}
    (hm : ts.length ≤ m) :
    ∃ items c, separated (expect .name) m ⟨src, ts ++ rest, 0⟩ = (.ok items, ⟨src, c :: rest, 0⟩) ∧
      c.kind = .closeParen ∧ items.map Token.text = xs := by
  induction h generalizing m with
  | @last t c ht hc =>
    obtain ⟨m, rfl⟩ : ∃ m', m = m' + 1 := Nat.exists_eq_add_one.mpr (by simp at hm; omega)
    refine ⟨[t], c, (bind_of_ok (expect_cons ht)).trans ?_, hc, rfl⟩
    rw [currentKind_bind, if_neg (by simp [hc])]
    rfl
  | @more t c ts xs ht hc _ ih =>
    obtain ⟨m, rfl⟩ : ∃ m', m = m' + 1 := Nat.exists_eq_add_one.mpr (by simp at hm; omega)
    obtain ⟨items, c', hs, hk, hx⟩ := ih (m := m) (by simp at hm; omega)
    refine ⟨t :: items, c', (bind_of_ok (expect_cons ht)).trans ?_, hk, by simp [hx]⟩
    rw [currentKind_bind, if_pos (by exact hc), advance_bind]
    exact bind_of_ok hs

lemma Head.read (h : Head ts f xs) :
    functionHead ⟨src, ts ++ rest, 0⟩ = (.ok (f, xs), ⟨src, rest, 0⟩) := by
  cases h with
  | @plain t o c e ht ho hc he =>
    have hl : listOf (expect .name) ⟨src, o :: c :: e :: rest, 0⟩ = (.ok [], ⟨src, e :: rest, 0⟩) := by
      refine (bind_of_ok (expect_cons ho)).trans ?_
      rw [currentKind_bind, if_pos (by exact hc)]
      rfl
    exact (bind_of_ok (expect_cons ht)).trans ((bind_of_ok hl).trans (bind_of_ok (expect_cons he)))
  | @parameters t o e ts _ ht ho hp he =>
    obtain ⟨items, c, hs, hc, rfl⟩ := hp.read src (e :: rest)
      (m := (ts ++ e :: rest).length) (by simp)
    have hl : listOf (expect .name) ⟨src, o :: (ts ++ e :: rest), 0⟩ =
        (.ok items, ⟨src, e :: rest, 0⟩) := by
      have hn : next (ts ++ e :: rest) ≠ .closeParen := by simp [hp.next_eq_name]
      refine (bind_of_ok (expect_cons ho)).trans ?_
      rw [currentKind_bind, if_neg hn]
      exact (bind_of_ok hs).trans (bind_of_ok (expect_cons hc))
    rw [List.cons_append, List.cons_append, List.append_assoc]
    exact (bind_of_ok (expect_cons ht)).trans ((bind_of_ok hl).trans (bind_of_ok (expect_cons he)))

lemma sound_parameters {items : List Token} {c : Token} {s₁ : Parser} (hd : s.depth ≤ limit)
    (hm : s.tokens.length ≤ m) (hs : separated (expect .name) m s = (.ok items, s₁))
    (he : expect .closeParen s₁ = (.ok c, s')) :
    ∃ ts, Consumes s s' ts 0 ∧ Parameters ts (items.map Token.text) := by
  induction m generalizing s items with
  | zero =>
    cases hs
    obtain ⟨hc, -⟩ := ok_of_expect he (by decide) hd
    have ht := hc.length_le
    simp only [List.length_singleton] at ht
    omega
  | succ m ih =>
    obtain ⟨t, s₂, hx, hr⟩ := ok_of_separated hs
    obtain ⟨hc, ht⟩ := ok_of_expect hx (by decide) hd
    obtain ⟨rfl, rfl⟩ | ⟨hk, bs, rfl, hb⟩ := hr
    · obtain ⟨hc', hk⟩ := ok_of_expect he (by decide) hc.depth_le'
      exact ⟨_, hc.trans hc', .last ht hk⟩
    · obtain ⟨hs', hk⟩ := cons_of_next hk (by decide)
      have hl := hc.length_tail_lt hs'
      obtain ⟨ts, hc', hp⟩ := ih (by exact hc.depth_le') (by dsimp only; omega) hb
      exact ⟨_, hc.trans (hc'.cons hs'), .more ht hk hp⟩

lemma sound_head (hd : s.depth ≤ limit) (h : functionHead s = (.ok (f, xs), s')) :
    ∃ ts, Consumes s s' ts 0 ∧ Head ts f xs := by
  obtain ⟨t, s₁, hx, h⟩ := ok_of_bind h
  obtain ⟨items, s₂, hl, h⟩ := ok_of_bind h
  obtain ⟨e, s₃, he, h⟩ := ok_of_bind h
  cases h
  obtain ⟨hc₁, ht⟩ := ok_of_expect hx (by decide) hd
  obtain ⟨o, s₄, hx', hl⟩ := ok_of_listOf hl
  obtain ⟨hc₂, ho⟩ := ok_of_expect hx' (by decide) hc₁.depth_le'
  obtain ⟨hk, rfl, rfl⟩ | ⟨s₅, c, hs, hx''⟩ := hl
  · obtain ⟨ht', hk⟩ := cons_of_next hk (by decide)
    have hc := (hc₁.trans hc₂).trans (.one hc₂.depth_le' ht')
    obtain ⟨hc', he⟩ := ok_of_expect he (by decide) hc.depth_le'
    exact ⟨_, hc.trans hc', .plain ht ho hk he⟩
  · obtain ⟨ts, hc₃, hp⟩ := sound_parameters hc₂.depth_le' (Nat.le_refl _) hs hx''
    obtain ⟨hc₄, he⟩ := ok_of_expect he (by decide) hc₃.depth_le'
    exact ⟨_, (hc₁.trans hc₂).trans (hc₃.trans hc₄), .parameters ht ho hp he⟩

lemma attempt_of_ok {α : Type} {x : Parse α} {a : α} (h : x s = (.ok a, s')) :
    attempt x s = (.ok (some a), s') := by
  rw [attempt, h]

lemma attempt_of_error {α : Type} {x : Parse α} {e : Error} (h : x s = (.error e, s')) :
    attempt x s = (.ok none, s) := by
  rw [attempt, h]

lemma settles_wholeExpression (h : Derives .expression ts p k)
    (hr : Rule.expression.continues (next rest) = false) :
    Settles wholeExpression ⟨src, ts ++ rest, 0⟩ k p ⟨src, rest, 0⟩ :=
  h.read (m := (ts ++ rest).length)
    ⟨Nat.zero_le _, by simp [Rule.distance], Nat.le_refl _⟩ hr

lemma attempt_head_of_expression (h : Derives .expression ts p k) (he : e.kind = .endOfInput) :
    attempt functionHead ⟨src, ts ++ [e], 0⟩ = (.ok none, ⟨src, ts ++ [e], 0⟩) := by
  rcases hx : functionHead ⟨src, ts ++ [e], 0⟩ with ⟨_ | ⟨f, xs⟩, s₁⟩
  · exact attempt_of_error hx
  · obtain ⟨us, hc, hh⟩ := sound_head (Nat.zero_le _) hx
    obtain ⟨t, ht, hk⟩ := hh.equal_mem
    have hs : ts ++ [e] = us ++ s₁.tokens := hc.tokens_eq
    have hm : t ∈ ts ++ [e] := hs ▸ List.mem_append_left _ ht
    obtain hm | rfl := by simpa using hm
    · exact absurd hk (h.kind_ne hm).1
    · rw [hk] at he
      contradiction

lemma mem_of_next_tail {a : Token.Kind} (h : next ts.tail = a) (ha : a ≠ .endOfInput) :
    ∃ t ∈ ts, t.kind = a := by
  rcases ts with _ | ⟨t, _ | ⟨t', ts⟩⟩
  · exact absurd h.symm ha
  · exact absurd h.symm ha
  · exact ⟨t', by simp, h⟩

lemma Head.next_eq (h : Head ts f xs) (us : List Token) :
    next (ts ++ us) = .name ∧ next (ts ++ us).tail = .openParen := by
  cases h with
  | plain ht ho | parameters ht ho => exact ⟨ht, ho⟩

lemma Statement.read (h : Statement ts p k) (he : e.kind = .endOfInput) :
    Settles statement ⟨src, ts ++ [e], 0⟩ k p ⟨src, [e], 0⟩ := by
  have hr : Rule.expression.continues (next [e]) = false := by rw [next_cons, he]; rfl
  cases h with
  | expression h =>
    have hw : Settles wholeExpression ⟨src, ts ++ [e], 0⟩ k p ⟨src, [e], 0⟩ :=
      settles_wholeExpression h hr
    refine settles_get.mpr ?_
    split
    · next hk =>
      obtain ⟨t, ht, hq⟩ := mem_of_next_tail hk.2 (by decide)
      obtain ht | rfl := by simpa using ht
      · exact absurd hq (h.kind_ne ht).1
      · rw [hq] at he
        contradiction
    · split
      · exact Settles.after (attempt_head_of_expression h he) hw rfl
      · exact hw
  | define ht he' h =>
    refine settles_get.mpr ?_
    rw [if_pos ⟨ht, he'⟩]
    refine Settles.after (expect_cons ht) (Settles.after (expect_cons he') ?_ rfl) rfl
    exact Settles.map (settles_wholeExpression h hr)
  | @defineFunction us vs _ _ _ _ hh h =>
    obtain ⟨hn, ho⟩ := hh.next_eq (vs ++ [e])
    rw [List.append_assoc]
    refine settles_get.mpr ?_
    rw [if_neg (by rintro ⟨-, hk⟩; exact absurd (hk.symm.trans ho) (by decide)), if_pos ⟨hn, ho⟩]
    exact Settles.after (attempt_of_ok hh.read) (Settles.map (settles_wholeExpression h hr)) rfl

lemma expectEnd_of_next (h : next s.tokens = .endOfInput) : expectEnd s = (.ok (), s) := by
  rw [expectEnd, currentKind_bind, if_neg (by simp [h])]
  rfl

lemma settles_end {x : Parse Phrase} (hx : Settles x s k p ⟨src, [e], 0⟩)
    (he : e.kind = .endOfInput) (hd : s.depth = 0) :
    Settles (do let q ← x; expectEnd; return q) s k p ⟨src, [e], 0⟩ := by
  rw [← Nat.max_zero k]
  refine Settles.bind hx ?_ hd.symm
  exact Settles.after (expectEnd_of_next he) (settles_pure (Nat.zero_le _)) rfl

lemma Line.read (h : Line ts p k) (he : e.kind = .endOfInput) :
    Settles line ⟨src, ts ++ [e], 0⟩ k p ⟨src, [e], 0⟩ := by
  refine settles_currentKind.mpr ?_
  cases h with
  | statement h =>
    have hc : next (ts ++ [e]) ≠ .colon := by
      have := h.next_ne_colon
      cases ts <;> simp_all
    rw [if_neg hc]
    refine settles_end ?_ he rfl
    rw [map_eq_pure_bind]
    exact Settles.map (h.read he)
  | evaluate hk h | exclude hk h =>
    obtain ⟨hc, ht, hw⟩ := hk
    rw [if_pos (by exact hc)]
    refine settles_end ?_ he rfl
    refine Settles.after (expect_cons hc) (Settles.after (expect_cons ht) ?_ rfl) rfl
    simp only [hw]
    exact Settles.map (h.read he)
  | newline hk | exit hk | quit hk =>
    obtain ⟨hc, ht, hw⟩ := hk
    rw [if_pos (by exact hc)]
    refine settles_end ?_ he rfl
    refine Settles.after (expect_cons hc) (Settles.after (expect_cons ht) ?_ rfl) rfl
    simp only [hw]
    exact settles_pure (Nat.zero_le _)

lemma sound_wholeExpression (hd : s.depth ≤ limit) (h : wholeExpression s = (.ok p, s')) :
    ∃ ts k, Consumes s s' ts k ∧ Derives .expression ts p k :=
  sound _ .expression _ hd (Nat.le_refl _) h

lemma sound_definition (hd : s.depth ≤ limit) (h : definition s = (.ok p, s')) :
    ∃ ts k, Consumes s s' ts k ∧ Statement ts p k := by
  obtain ⟨t, s₁, hx, h⟩ := ok_of_bind h
  obtain ⟨e, s₂, hx', h⟩ := ok_of_bind h
  obtain ⟨q, s₃, hq, h⟩ := ok_of_bind h
  cases h
  obtain ⟨hc, ht⟩ := ok_of_expect hx (by decide) hd
  obtain ⟨hc', he⟩ := ok_of_expect hx' (by decide) hc.depth_le'
  obtain ⟨ts, k, hw, hq⟩ := sound_wholeExpression hc'.depth_le' hq
  exact ⟨_, _, (hc.trans hc').trans hw, by simpa using .define ht he hq⟩

lemma sound_functionOrExpression (hd : s.depth ≤ limit)
    (h : functionOrExpression s = (.ok p, s')) : ∃ ts k, Consumes s s' ts k ∧ Statement ts p k := by
  obtain ⟨r, s₁, ha, h⟩ := ok_of_bind h
  rcases hx : functionHead s with ⟨_ | ⟨f, xs⟩, s₂⟩
  · rw [attempt_of_error hx] at ha
    cases ha
    obtain ⟨ts, k, hc, hp⟩ := sound_wholeExpression hd h
    exact ⟨ts, k, hc, .expression hp⟩
  · rw [attempt_of_ok hx] at ha
    cases ha
    obtain ⟨ts, hc, hh⟩ := sound_head hd hx
    obtain ⟨q, s₃, hq, h⟩ := ok_of_bind h
    cases h
    obtain ⟨us, k, hc', hq⟩ := sound_wholeExpression hc.depth_le' hq
    exact ⟨_, _, hc.trans hc', Nat.zero_max k ▸ .defineFunction hh hq⟩

lemma sound_statement (hd : s.depth ≤ limit) (h : statement s = (.ok p, s')) :
    ∃ ts k, Consumes s s' ts k ∧ Statement ts p k := by
  rw [statement, get_bind] at h
  split at h
  · exact sound_definition hd h
  · split at h
    · exact sound_functionOrExpression hd h
    · obtain ⟨ts, k, hc, hp⟩ := sound_wholeExpression hd h
      exact ⟨ts, k, hc, .expression hp⟩

def Rendering (ts : List Token) : Prop :=
  ∃ c t us, ts = c :: t :: us ∧ Keyword c t "render"

lemma sound_command (hd : s.depth ≤ limit) (h : command s = (.ok p, s')) :
    (∃ ts k, Consumes s s' ts k ∧ Line ts p k) ∨ Rendering s.tokens ∧ ∃ path, p = .render path := by
  obtain ⟨c, s₁, hc, h⟩ := ok_of_bind h
  obtain ⟨t, s₂, ht, h⟩ := ok_of_bind h
  obtain ⟨hc, hk⟩ := ok_of_expect hc (by decide) hd
  obtain ⟨ht, hn⟩ := ok_of_expect ht (by decide) hc.depth_le'
  have hs := hc.trans ht
  obtain ⟨x, hx, h⟩ : ∃ x : Parse Phrase, x = _ ∧ x s₂ = (.ok p, s') := ⟨_, rfl, h⟩
  split at hx <;> subst hx
  · next hw =>
    cases h
    exact .inl ⟨_, _, hs, .exit ⟨hk, hn, hw⟩⟩
  · next hw =>
    cases h
    exact .inl ⟨_, _, hs, .quit ⟨hk, hn, hw⟩⟩
  · next hw =>
    cases h
    exact .inl ⟨_, _, hs, .newline ⟨hk, hn, hw⟩⟩
  · next hw =>
    obtain ⟨q, s₃, hq, h⟩ := ok_of_bind h
    cases h
    obtain ⟨ts, k, hc', hq⟩ := sound_statement hs.depth_le' hq
    exact .inl ⟨_, _, hs.trans hc', Nat.zero_max k ▸ .evaluate ⟨hk, hn, hw⟩ hq⟩
  · next hw =>
    obtain ⟨q, s₃, hq, h⟩ := ok_of_bind h
    cases h
    obtain ⟨ts, k, hc', hq⟩ := sound_statement hs.depth_le' hq
    exact .inl ⟨_, _, hs.trans hc', Nat.zero_max k ▸ .exclude ⟨hk, hn, hw⟩ hq⟩
  · next hw =>
    refine .inr ⟨⟨c, t, s₂.tokens, hs.tokens_eq, hk, hn, hw⟩, ?_⟩
    rw [renderPath, get_bind] at h
    split at h
    · cases h
    · cases h
      exact ⟨_, rfl⟩
  · cases h

lemma ok_of_end {x : Parse Phrase} (h : (do let q ← x; expectEnd; return q) s = (.ok p, s')) :
    x s = (.ok p, s') ∧ next s'.tokens = .endOfInput := by
  obtain ⟨q, s₁, hx, h⟩ := ok_of_bind h
  obtain ⟨_, s₂, he, h⟩ := ok_of_bind h
  cases h
  rw [expectEnd, currentKind_bind] at he
  split at he
  · cases he
  · next hn =>
    cases he
    exact ⟨hx, Decidable.not_not.mp hn⟩

lemma sound_line (hd : s.depth ≤ limit) (h : line s = (.ok p, s')) :
    (∃ ts k, Consumes s s' ts k ∧ Line ts p k ∧ next s'.tokens = .endOfInput) ∨
      Rendering s.tokens ∧ ∃ path, p = .render path := by
  rw [line, currentKind_bind] at h
  split at h
  · obtain ⟨hx, he⟩ := ok_of_end h
    obtain ⟨ts, k, hc, hp⟩ | hr := sound_command hd hx
    · exact .inl ⟨ts, k, hc, hp, he⟩
    · exact .inr hr
  · obtain ⟨hx, he⟩ := ok_of_end h
    rw [map_eq_pure_bind] at hx
    obtain ⟨q, s₂, hq, hx⟩ := ok_of_bind hx
    cases hx
    obtain ⟨ts, k, hc, hp⟩ := sound_statement hd hq
    exact .inl ⟨ts, k, hc, .statement hp, he⟩

end QuantityCalculator.Grammar
