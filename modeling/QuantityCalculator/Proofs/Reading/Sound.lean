import QuantityCalculator.Proofs.Reading.Complete
import QuantityCalculator.Proofs.Reading.Consumes

/-!
What is read is derived by the grammar, from the tokens that were taken.
-/

namespace QuantityCalculator.Grammar

open Parse

def Sound (r : Rule) (n m : Nat) : Prop :=
  ∀ {s s' p}, s.depth ≤ limit → s.tokens.length ≤ m → r.reader n m s = (.ok p, s') →
    ∃ ts k, Consumes s s' ts k ∧ Derives r ts p k

variable {n m : Nat} {l : Phrase} {s s' : Parser} {p : Phrase}

lemma sound_zero (r : Rule) (hr : ∀ f as, r ≠ .argumentsAfter f as) : Sound r 0 m := by
  intro s s' p _ _ h
  cases r with
  | argumentsAfter f as => exact absurd rfl (hr f as)
  | _ => cases h

lemma sound_expression (hn : ∀ r m, Sound r n m) : Sound .expression (n + 1) m := by
  intro s s' p _ _ h
  obtain ⟨hd, s₁, hx, rfl⟩ := ok_of_charged h
  obtain ⟨l, s₂, hl, hp⟩ := ok_of_bind hx
  obtain ⟨ts, j, hc, hl⟩ := hn .term _ (by exact hd) (Nat.le_refl _) hl
  obtain ⟨us, k, hc', hp⟩ := hn (.sumAfter l) _ hc.depth_le' (Nat.le_refl _) hp
  exact ⟨ts ++ us, _, (hc.trans hc').charged, .expression hl hp⟩

lemma sound_sumAfter (hn : ∀ r m, Sound r n m) : Sound (.sumAfter l) (n + 1) m := by
  intro s s' p hd _ h
  change (currentKind >>= _) s = _ at h
  rw [currentKind_bind] at h
  rcases ho : additive? (next s.tokens) with _ | o <;> simp only [ho] at h
  · obtain ⟨rfl, rfl⟩ := eq_of_pure h
    exact ⟨[], 0, .refl hd, .sumEnd⟩
  · obtain ⟨ht, hk⟩ := cons_of_next (s := s) rfl (by rintro he; simp [he, additive?] at ho)
    obtain ⟨hd, s₁, hx, rfl⟩ := ok_of_charged h
    rw [advance_bind] at hx
    obtain ⟨q, s₂, hq, hp⟩ := ok_of_bind hx
    obtain ⟨ts, j, hc, hq⟩ := hn .term _ (by exact hd) (Nat.le_refl _) hq
    obtain ⟨us, k, hc', hp⟩ := hn (.sumAfter _) _ hc.depth_le' (Nat.le_refl _) hp
    exact ⟨_, _, ((hc.trans hc').cons ht).charged, .sumNext (hk ▸ ho) hq hp⟩

lemma sound_term (hn : ∀ r m, Sound r n m) : Sound .term (n + 1) m := by
  intro s s' p hd _ h
  obtain ⟨l, s₁, hl, hp⟩ := ok_of_bind h
  obtain ⟨ts, j, hc, hl⟩ := hn .unary _ hd (Nat.le_refl _) hl
  obtain ⟨us, k, hc', hp⟩ := hn (.productAfter l) _ hc.depth_le' (Nat.le_refl _) hp
  exact ⟨ts ++ us, _, hc.trans hc', .term hl hp⟩

lemma sound_productAfter (hn : ∀ r m, Sound r n m) : Sound (.productAfter l) (n + 1) m := by
  intro s s' p hd _ h
  change (currentKind >>= _) s = _ at h
  rw [currentKind_bind] at h
  rcases ho : multiplicative? (next s.tokens) with _ | o <;> simp only [ho] at h
  · obtain ⟨rfl, rfl⟩ := eq_of_pure h
    exact ⟨[], 0, .refl hd, .productEnd⟩
  · obtain ⟨ht, hk⟩ := cons_of_next (s := s) rfl (by rintro he; simp [he, multiplicative?] at ho)
    obtain ⟨hd, s₁, hx, rfl⟩ := ok_of_charged h
    rw [advance_bind] at hx
    obtain ⟨q, s₂, hq, hp⟩ := ok_of_bind hx
    obtain ⟨ts, j, hc, hq⟩ := hn .unary _ (by exact hd) (Nat.le_refl _) hq
    obtain ⟨us, k, hc', hp⟩ := hn (.productAfter _) _ hc.depth_le' (Nat.le_refl _) hp
    exact ⟨_, _, ((hc.trans hc').cons ht).charged, .productNext (hk ▸ ho) hq hp⟩

lemma sound_unary (hn : ∀ r m, Sound r n m) : Sound .unary (n + 1) m := by
  intro s s' p hd _ h
  change (currentKind >>= _) s = _ at h
  rw [currentKind_bind] at h
  by_cases hm : next s.tokens = .minus
  · rw [if_pos hm] at h
    obtain ⟨ht, hk⟩ := cons_of_next hm (by decide)
    obtain ⟨hd, s₁, hx, rfl⟩ := ok_of_charged h
    rw [advance_bind] at hx
    obtain ⟨q, s₂, hq, hx⟩ := ok_of_bind hx
    cases hx
    obtain ⟨ts, k, hc, hq⟩ := hn .unary _ (by exact hd) (Nat.le_refl _) hq
    exact ⟨_, _, (hc.cons ht).charged, .minus hk hq⟩
  · rw [if_neg hm] at h
    obtain ⟨ts, k, hc, hp⟩ := hn .power _ hd (Nat.le_refl _) h
    exact ⟨ts, k, hc, .unary hp⟩

lemma sound_power (hn : ∀ r m, Sound r n m) : Sound .power (n + 1) m := by
  intro s s' p hd _ h
  obtain ⟨b, s₁, hb, h⟩ := ok_of_bind h
  obtain ⟨ts, j, hc, hb⟩ := hn .operand _ hd (Nat.le_refl _) hb
  rw [currentKind_bind] at h
  by_cases hm : next s₁.tokens = .caret
  · rw [if_pos hm] at h
    obtain ⟨ht, hk⟩ := cons_of_next hm (by decide)
    obtain ⟨hd, s₂, hx, rfl⟩ := ok_of_charged h
    rw [advance_bind] at hx
    obtain ⟨e, s₃, he, hx⟩ := ok_of_bind hx
    cases hx
    obtain ⟨us, k, hc', he⟩ := hn .unary _ (by exact hd) (Nat.le_refl _) he
    exact ⟨_, _, hc.trans (hc'.cons ht).charged, .raised hk hb he⟩
  · rw [if_neg hm] at h
    obtain ⟨rfl, rfl⟩ := eq_of_pure h
    exact ⟨ts, j, hc, .power hb⟩

lemma sound_number (hd : s.depth ≤ limit) (hk : next s.tokens = .number)
    (h : number s = (.ok p, s')) : ∃ ts k, Consumes s s' ts k ∧ Derives .operand ts p k := by
  obtain ⟨ht, hk⟩ := cons_of_next hk (by decide)
  rw [number, current_bind, advance_bind, currentKind_bind] at h
  by_cases hu : isUnit (next s.tokens.tail)
  · rw [if_pos hu] at h
    obtain ⟨q, s₁, hx, h⟩ := ok_of_bind h
    cases h
    obtain ⟨u, fs, hc, hu', hr, rfl⟩ := ok_of_unit hx hd hu
    exact ⟨_, _, hc.cons ht, .measured hk (hu' ▸ hu) hr⟩
  · rw [if_neg hu] at h
    cases h
    exact ⟨_, _, .one hd ht, .number hk⟩

lemma sound_name (hn : ∀ r m, Sound r n m) (hd : s.depth ≤ limit) (hk : next s.tokens = .name)
    (h : operand (n + 1) s = (.ok p, s')) :
    ∃ ts k, Consumes s s' ts k ∧ Derives .operand ts p k := by
  change (currentKind >>= _) s = _ at h
  simp only [currentKind_bind, hk] at h
  obtain ⟨ht, hk⟩ := cons_of_next hk (by decide)
  rw [current_bind, advance_bind, currentKind_bind] at h
  by_cases ho : next s.tokens.tail = .openParen
  · rw [if_pos ho] at h
    obtain ⟨as, s₁, hx, h⟩ := ok_of_bind h
    cases h
    obtain ⟨o, s₂, hx, hl⟩ := ok_of_listOf hx
    obtain ⟨hc, ho⟩ := ok_of_expect hx (by decide) hd
    obtain ⟨hk', rfl, rfl⟩ | ⟨s₃, c, hs, he⟩ := hl
    · obtain ⟨ht', hk'⟩ := cons_of_next hk' (by decide)
      exact ⟨_, _, (hc.trans (.one hc.depth_le' ht')).cons ht, .callEmpty hk ho hk'⟩
    · have hr : (Rule.argumentsAfter s.current.text []).reader n _ s₂ = (.ok (.call _ as), s') :=
        (bind_of_ok hs).trans (bind_of_ok he)
      obtain ⟨ts, k, hc', ha⟩ := hn _ _ hc.depth_le' (Nat.le_refl _) hr
      exact ⟨_, _, (hc.trans hc').cons ht, Nat.zero_max k ▸ .call hk ho ha⟩
  · rw [if_neg ho] at h
    cases h
    exact ⟨_, _, .one hd ht, .access hk⟩

lemma sound_inside {a : Token.Kind} {f : Phrase → Phrase} (hn : ∀ r m, Sound r n m)
    (hd : s.depth ≤ limit) (ha : a ≠ .endOfInput)
    (h : (do let q ← expression n; let _ ← expect a; return f q) s = (.ok p, s')) :
    ∃ ts c q k, Consumes s s' (ts ++ [c]) k ∧ c.kind = a ∧ Derives .expression ts q k ∧ p = f q := by
  obtain ⟨q, s₁, hq, h⟩ := ok_of_bind h
  obtain ⟨c, s₂, hx, h⟩ := ok_of_bind h
  cases h
  obtain ⟨ts, k, hc, hq⟩ := hn .expression _ hd (Nat.le_refl _) hq
  obtain ⟨hc', hk⟩ := ok_of_expect hx ha hc.depth_le'
  exact ⟨ts, c, q, k, Nat.max_zero k ▸ hc.trans hc', hk, hq, rfl⟩

lemma sound_operand (hn : ∀ r m, Sound r n m) : Sound .operand (n + 1) m := by
  intro s s' p hd _ h
  have h' := h
  change (currentKind >>= _) s = _ at h
  rw [currentKind_bind] at h
  cases hk : next s.tokens with
  | number =>
    simp only [hk] at h
    exact sound_number hd hk h
  | quotedUnit =>
    simp only [hk] at h
    obtain ⟨q, s₁, hx, h⟩ := ok_of_bind h
    cases h
    obtain ⟨u, fs, hc, hu, hr, rfl⟩ := ok_of_unit hx hd (by simp [hk, isUnit])
    exact ⟨_, _, hc, .quoted (hu.trans hk) hr⟩
  | name => exact sound_name hn hd hk h'
  | openParen =>
    simp only [hk, advance_bind] at h
    obtain ⟨ht, hk⟩ := cons_of_next hk (by decide)
    obtain ⟨ts, c, q, k, hc, hk', hq, rfl⟩ := sound_inside hn (by exact hd) (by decide) h
    exact ⟨_, _, hc.cons ht, .group hk hk' hq⟩
  | bar =>
    simp only [hk, advance_bind] at h
    obtain ⟨ht, hk⟩ := cons_of_next hk (by decide)
    obtain ⟨ts, c, q, k, hc, hk', hq, rfl⟩ := sound_inside hn (by exact hd) (by decide) h
    exact ⟨_, _, hc.cons ht, .absolute hk hk' hq⟩
  | _ =>
    simp only [hk] at h
    cases h

lemma sound_argumentsAfter (hn : Sound .expression n m) {f : String} {as : List Phrase} {m' : Nat}
    (hm : m' ≤ m) : Sound (.argumentsAfter f as) n m' := by
  induction m' generalizing as with
  | zero =>
    intro s s' p hd hl h
    obtain ⟨_, _, hs, h⟩ := ok_of_bind h
    cases hs
    obtain ⟨c, _, he, -⟩ := ok_of_bind h
    obtain ⟨hc, -⟩ := ok_of_expect he (by decide) hd
    have ht := hc.length_le
    simp only [List.length_singleton] at ht
    omega
  | succ m' ih =>
    intro s s' p hd hl h
    obtain ⟨items, s₁, hs, h⟩ := ok_of_bind h
    obtain ⟨a, s₂, hx, hr⟩ := ok_of_separated hs
    obtain ⟨ts, j, hc, ha⟩ := hn hd (by omega) hx
    obtain ⟨rfl, rfl⟩ | ⟨hk, bs, rfl, hb⟩ := hr
    · obtain ⟨c, s₃, he, h⟩ := ok_of_bind h
      cases h
      obtain ⟨hc', hk⟩ := ok_of_expect he (by decide) hc.depth_le'
      exact ⟨_, _, Nat.max_zero j ▸ hc.trans hc', .lastArgument hk ha⟩
    · obtain ⟨ht, hk⟩ := cons_of_next hk (by decide)
      obtain ⟨c, s₃, he, h⟩ := ok_of_bind h
      cases h
      have hr : (Rule.argumentsAfter f (as ++ [a])).reader n m'
          { s₂ with tokens := s₂.tokens.tail } = (.ok (.call f (as ++ a :: bs)), s') := by
        rw [List.append_cons as a bs]
        exact (bind_of_ok hb).trans (bind_of_ok he)
      have ht' := hc.length_tail_lt ht
      obtain ⟨us, k, hc', hp⟩ := ih (by omega) (by exact hc.depth_le') (by dsimp only; omega) hr
      exact ⟨_, _, hc.trans (hc'.cons ht), .nextArgument hk ha hp⟩

lemma sound (n : Nat) : ∀ r m, Sound r n m := by
  -- Arguments are read at the same nesting as the expressions in them.
  have arguments {n f as m} (h : ∀ m, Sound .expression n m) :
      Sound (.argumentsAfter f as) n m :=
    sound_argumentsAfter (h m) (Nat.le_refl m)
  induction n with
  | zero =>
    intro r m
    cases r with
    | argumentsAfter f as => exact arguments fun m => sound_zero _ (by simp)
    | _ => exact sound_zero _ (by simp)
  | succ n ih =>
    intro r m
    cases r with
    | expression => exact sound_expression ih
    | sumAfter l => exact sound_sumAfter ih
    | term => exact sound_term ih
    | productAfter l => exact sound_productAfter ih
    | unary => exact sound_unary ih
    | power => exact sound_power ih
    | operand => exact sound_operand ih
    | argumentsAfter f as => exact arguments fun m => sound_expression ih

end QuantityCalculator.Grammar
