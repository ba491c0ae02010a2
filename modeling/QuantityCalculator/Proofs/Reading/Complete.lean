import QuantityCalculator.Proofs.Reading.Settles

/-!
What the grammar derives is read, unless it needs too many charges.
-/

namespace QuantityCalculator.Grammar

open Parse

/-- The reader of a rule: `n` bounds the nesting of readers, `m` the number of arguments. -/
def Rule.reader (n m : Nat) : Rule → Parse Phrase
  | .expression => Parse.expression n
  | .sumAfter l => Parse.sumAfter n l
  | .term => Parse.term n
  | .productAfter l => Parse.productAfter n l
  | .unary => Parse.unary n
  | .power => Parse.power n
  | .operand => Parse.operand n
  | .argumentsAfter f as => do
    let items ← separated (Parse.expression n) m
    let _ ← expect .closeParen
    return .call f (as ++ items)

/-- The readers that lie between the one of a rule and the next charge. -/
def Rule.distance : Rule → Nat
  | .expression | .argumentsAfter .. => 0
  | .sumAfter _ | .term => 4
  | .productAfter _ | .unary => 3
  | .power => 2
  | .operand => 1

lemma Rule.distance_le (r : Rule) : r.distance ≤ 4 := by
  cases r <;> simp [Rule.distance]

/-- The bounds of a reader suffice where `d` charges are held. -/
structure Rule.Bounded (r : Rule) (ts : List Token) (d n m : Nat) : Prop where
  depth_le : d ≤ limit
  nesting_le : r.distance + 5 * (limit + 1 - d) ≤ n
  length_le : ts.length ≤ m

def Read (r : Rule) (ts : List Token) (p : Phrase) (k : Nat) : Prop :=
  ∀ {n m src rest d}, r.Bounded (ts ++ rest) d n m → r.continues (next rest) = false →
    Settles (r.reader n m) ⟨src, ts ++ rest, d⟩ k p ⟨src, rest, d⟩

variable {r r' : Rule} {ts us : List Token} {t o c : Token} {l q p : Phrase} {j k d n m : Nat}
  {f : String} {as : List Phrase}

lemma Rule.Bounded.pos (h : r.Bounded ts d n m) : ∃ n', n = n' + 1 := by
  obtain ⟨hd, hn, -⟩ := h
  exact Nat.exists_eq_add_one.mpr (by omega)

lemma Rule.Bounded.inner (h : r.Bounded ts d (n + 1) m) (hr : r'.distance < r.distance) :
    r'.Bounded us d n us.length := by
  obtain ⟨hd, hn, -⟩ := h
  exact ⟨hd, by omega, Nat.le_refl _⟩

lemma Rule.Bounded.charged (h : r.Bounded ts d (n + 1) m) (hd : d < limit) :
    r'.Bounded us (d + 1) n us.length := by
  obtain ⟨-, hn, -⟩ := h
  have hr := r'.distance_le
  exact ⟨hd, by omega, Nat.le_refl _⟩

lemma Rule.Bounded.arguments_pos (h : r.Bounded ts d n m) (ht : ts ≠ []) : ∃ m', m = m' + 1 := by
  have hl := List.length_pos_iff.mpr ht
  have hm := h.length_le
  exact Nat.exists_eq_add_one.mpr (by omega)

lemma Rule.Bounded.argument (h : (Rule.argumentsAfter f as).Bounded ts d n m) :
    Rule.expression.Bounded us d n us.length :=
  ⟨h.depth_le, h.nesting_le, Nat.le_refl _⟩

lemma Rule.Bounded.arguments {as' : List Phrase}
    (h : (Rule.argumentsAfter f as).Bounded ts d n (m + 1)) (hl : us.length < ts.length) :
    (Rule.argumentsAfter f as').Bounded us d n m :=
  ⟨h.depth_le, h.nesting_le, by have := h.length_le; omega⟩

lemma read_expression (ht : Derives (.sumAfter l) us p k) (hl : Read .term ts l j)
    (hp : Read (.sumAfter l) us p k) : Read .expression (ts ++ us) p (max j k + 1) := by
  intro n m src rest d hb hr
  obtain ⟨n, rfl⟩ := hb.pos
  rw [List.append_assoc] at hb ⊢
  refine Settles.charged fun hd => ?_
  exact Settles.bind (hl (hb.charged hd) (ht.not_continues_term hr)) (hp (hb.charged hd) hr) rfl

lemma read_sumEnd : Read (.sumAfter p) [] p 0 := by
  intro n m src rest d hb hr
  obtain ⟨n, rfl⟩ := hb.pos
  have ho : additive? (next rest) = none := by simp_all [Rule.continues]
  refine settles_currentKind.mpr ?_
  simp only [List.nil_append, ho]
  exact settles_pure hb.depth_le

lemma read_sumNext {o : Operator} (ho : additive? t.kind = some o)
    (ht : Derives (.sumAfter (.binary o l q)) us p k) (hq : Read .term ts q j)
    (hp : Read (.sumAfter (.binary o l q)) us p k) :
    Read (.sumAfter l) (t :: (ts ++ us)) p (max j k + 1) := by
  intro n m src rest d hb hr
  obtain ⟨n, rfl⟩ := hb.pos
  rw [List.cons_append, List.append_assoc] at hb ⊢
  refine settles_currentKind.mpr ?_
  simp only [next_cons, ho]
  refine Settles.charged fun hd => settles_advance.mpr ?_
  exact Settles.bind (hq (hb.charged hd) (ht.not_continues_term hr))
    (hp (hb.charged hd) hr) rfl

lemma read_term (ht : Derives (.productAfter l) us p k) (hl : Read .unary ts l j)
    (hp : Read (.productAfter l) us p k) : Read .term (ts ++ us) p (max j k) := by
  intro n m src rest d hb hr
  obtain ⟨n, rfl⟩ := hb.pos
  rw [List.append_assoc] at hb ⊢
  exact Settles.bind (hl (hb.inner (by decide)) (ht.not_continues_unary hr))
    (hp (hb.inner (by simp [Rule.distance])) hr) rfl

lemma read_productEnd : Read (.productAfter p) [] p 0 := by
  intro n m src rest d hb hr
  obtain ⟨n, rfl⟩ := hb.pos
  have ho : multiplicative? (next rest) = none := by simp_all [Rule.continues]
  refine settles_currentKind.mpr ?_
  simp only [List.nil_append, ho]
  exact settles_pure hb.depth_le

lemma read_productNext {o : Operator} (ho : multiplicative? t.kind = some o)
    (ht : Derives (.productAfter (.binary o l q)) us p k) (hq : Read .unary ts q j)
    (hp : Read (.productAfter (.binary o l q)) us p k) :
    Read (.productAfter l) (t :: (ts ++ us)) p (max j k + 1) := by
  intro n m src rest d hb hr
  obtain ⟨n, rfl⟩ := hb.pos
  rw [List.cons_append, List.append_assoc] at hb ⊢
  refine settles_currentKind.mpr ?_
  simp only [next_cons, ho]
  refine Settles.charged fun hd => settles_advance.mpr ?_
  exact Settles.bind (hq (hb.charged hd) (ht.not_continues_unary hr))
    (hp (hb.charged hd) hr) rfl

lemma read_minus (hm : t.kind = .minus) (hp : Read .unary ts p k) :
    Read .unary (t :: ts) (.negate p) (k + 1) := by
  intro n m src rest d hb hr
  obtain ⟨n, rfl⟩ := hb.pos
  rw [List.cons_append] at hb ⊢
  refine settles_currentKind.mpr ?_
  simp only [next_cons, hm, if_true]
  refine Settles.charged fun hd => settles_advance.mpr ?_
  exact Settles.map (hp (hb.charged hd) hr)

lemma read_unary (h : Derives .power ts p k) (hp : Read .power ts p k) : Read .unary ts p k := by
  intro n m src rest d hb hr
  obtain ⟨n, rfl⟩ := hb.pos
  refine settles_currentKind.mpr ?_
  rw [if_neg (h.next_ne_minus rest)]
  exact hp (hb.inner (by decide)) hr

lemma read_raised {b e : Phrase} (hc : t.kind = .caret) (hb : Read .operand ts b j)
    (he : Read .unary us e k) : Read .power (ts ++ t :: us) (.binary .power b e) (max j (k + 1)) := by
  intro n m src rest d hn hr
  obtain ⟨n, rfl⟩ := hn.pos
  rw [List.append_assoc, List.cons_append] at hn ⊢
  have ht : Rule.operand.continues t.kind = false := by rw [hc]; rfl
  refine Settles.bind (hb (hn.inner (by decide)) ht) (settles_currentKind.mpr ?_) rfl
  simp only [next_cons, hc, if_true]
  refine Settles.charged fun hd => settles_advance.mpr ?_
  exact Settles.map (he (hn.charged hd) hr)

lemma read_power (hp : Read .operand ts p k) : Read .power ts p k := by
  intro n m src rest d hb hr
  obtain ⟨n, rfl⟩ := hb.pos
  obtain ⟨hr, hn⟩ := not_continues_operand hr
  rw [← Nat.max_zero k]
  refine Settles.bind (hp (hb.inner (by decide)) hr) (settles_currentKind.mpr ?_) rfl
  rw [if_neg hn]
  exact settles_pure hb.depth_le

lemma unit_of_resolves {u : Token} {fs : List Factor} {src : List Char} (h : Resolves u.text fs) :
    unit ⟨src, u :: ts, d⟩ = (.ok (.unit fs), ⟨src, ts, d⟩) := by
  obtain ⟨ht, hs, v, hv⟩ := h
  have hn : ¬ (Parser.current ⟨src, u :: ts, d⟩).text = "" := ht
  have hs : Factor.split (Parser.current ⟨src, u :: ts, d⟩).text = .ok fs := hs
  rw [unit, current_bind, if_neg hn, hs]
  refine (bind_of_ok ofUnit_ok).trans ?_
  rw [hv]
  exact bind_of_ok ofUnit_ok

lemma read_number (ht : t.kind = .number) : Read .operand [t] (.number t.text) 0 := by
  intro n m src rest d hb hr
  obtain ⟨n, rfl⟩ := hb.pos
  have hu : isUnit (next rest) = false := by simp_all [Rule.continues]
  refine settles_currentKind.mpr ?_
  simp only [List.cons_append, List.nil_append, next_cons, ht]
  refine settles_current.mpr (settles_advance.mpr (settles_currentKind.mpr ?_))
  simp only [List.tail_cons, hu]
  exact settles_pure hb.depth_le

lemma read_measured {u : Token} {fs : List Factor} (ht : t.kind = .number) (hk : isUnit u.kind)
    (hr : Resolves u.text fs) :
    Read .operand [t, u] (.measured (.number t.text) (.unit fs)) 0 := by
  intro n m src rest d hb _
  obtain ⟨n, rfl⟩ := hb.pos
  refine settles_currentKind.mpr ?_
  simp only [List.cons_append, List.nil_append, next_cons, ht]
  refine settles_current.mpr (settles_advance.mpr (settles_currentKind.mpr ?_))
  simp only [List.tail_cons, next_cons, hk, if_true]
  exact Settles.after (unit_of_resolves hr) (settles_pure hb.depth_le) rfl

lemma read_quoted {u : Token} {fs : List Factor} (hk : u.kind = .quotedUnit)
    (hr : Resolves u.text fs) : Read .operand [u] (.measured (.number "") (.unit fs)) 0 := by
  intro n m src rest d hb _
  obtain ⟨n, rfl⟩ := hb.pos
  refine settles_currentKind.mpr ?_
  simp only [List.cons_append, List.nil_append, next_cons, hk]
  exact Settles.after (unit_of_resolves hr) (settles_pure hb.depth_le) rfl

lemma read_access (ht : t.kind = .name) : Read .operand [t] (.access t.text) 0 := by
  intro n m src rest d hb hr
  obtain ⟨n, rfl⟩ := hb.pos
  have ho : next rest ≠ .openParen := by simp_all [Rule.continues]
  refine settles_currentKind.mpr ?_
  simp only [List.cons_append, List.nil_append, next_cons, ht]
  refine settles_current.mpr (settles_advance.mpr (settles_currentKind.mpr ?_))
  split
  · next h => exact absurd h ho
  · exact settles_pure hb.depth_le

lemma read_callEmpty (ht : t.kind = .name) (ho : o.kind = .openParen) (hc : c.kind = .closeParen) :
    Read .operand [t, o, c] (.call t.text []) 0 := by
  intro n m src rest d hb _
  obtain ⟨n, rfl⟩ := hb.pos
  refine settles_currentKind.mpr ?_
  simp only [List.cons_append, List.nil_append, next_cons, ht]
  refine settles_current.mpr (settles_advance.mpr (settles_currentKind.mpr ?_))
  simp only [List.tail_cons, next_cons, ho, if_true, listOf, bind_assoc]
  refine Settles.after (expect_cons ho) (settles_currentKind.mpr ?_) rfl
  simp only [next_cons, hc, if_true, bind_assoc, pure_bind]
  exact settles_advance.mpr (settles_pure hb.depth_le)

lemma read_call (ht : t.kind = .name) (ho : o.kind = .openParen)
    (ha : Derives (.argumentsAfter t.text []) ts p k) (hp : Read (.argumentsAfter t.text []) ts p k) :
    Read .operand (t :: o :: ts) p k := by
  intro n m src rest d hb _
  obtain ⟨n, rfl⟩ := hb.pos
  refine settles_currentKind.mpr ?_
  simp only [List.cons_append, next_cons, ht]
  refine settles_current.mpr (settles_advance.mpr (settles_currentKind.mpr ?_))
  simp only [List.tail_cons, next_cons, ho, if_true, listOf, bind_assoc]
  refine Settles.after (expect_cons ho) (settles_currentKind.mpr ?_) rfl
  simp only [if_neg (ha.next_ne_closeParen rest), bind_assoc, pure_bind]
  exact settles_get.mpr (hp (hb.inner (by simp [Rule.distance])) rfl)

lemma read_lastArgument {a : Phrase} (hc : c.kind = .closeParen) (ha : Read .expression ts a k) :
    Read (.argumentsAfter f as) (ts ++ [c]) (.call f (as ++ [a])) k := by
  intro n m src rest d hb _
  obtain ⟨m, rfl⟩ := hb.arguments_pos (by simp)
  rw [List.append_assoc] at hb ⊢
  rw [← Nat.max_zero k]
  simp only [Rule.reader, separated, bind_assoc]
  refine Settles.bind (ha hb.argument (not_continues_closing (.inl hc))) ?_ rfl
  refine settles_currentKind.mpr ?_
  simp only [List.cons_append, next_cons, hc, reduceCtorEq, if_false, pure_bind]
  exact Settles.after (expect_cons hc) (settles_pure hb.depth_le) rfl

lemma read_nextArgument {a : Phrase} (hc : c.kind = .comma) (ha : Read .expression ts a j)
    (hp : Read (.argumentsAfter f (as ++ [a])) us p k) :
    Read (.argumentsAfter f as) (ts ++ c :: us) p (max j k) := by
  intro n m src rest d hb _
  obtain ⟨m, rfl⟩ := hb.arguments_pos (by simp)
  rw [List.append_assoc, List.cons_append] at hb ⊢
  simp only [Rule.reader, separated, bind_assoc]
  refine Settles.bind (ha hb.argument (not_continues_closing (.inr (.inl hc)))) ?_ rfl
  refine settles_currentKind.mpr ?_
  simp only [next_cons, hc, if_true, bind_assoc, pure_bind]
  -- The comma pays for one more argument.
  have hl : (us ++ rest).length < (ts ++ c :: (us ++ rest)).length := by
    simp only [List.length_append, List.length_cons]
    omega
  have h : Settles _ ⟨src, us ++ rest, d⟩ k p ⟨src, rest, d⟩ := hp (hb.arguments hl) rfl
  simp only [Rule.reader, List.append_assoc, List.cons_append, List.nil_append] at h
  exact settles_advance.mpr h

lemma settles_inside {a : Token.Kind} {g : Phrase → Phrase} {src : List Char} {rest : List Token}
    (hc : c.kind = a) (ha : Rule.expression.continues a = false) (hp : Read .expression ts p k)
    (hb : Rule.operand.Bounded us d (n + 1) m) :
    Settles (do let q ← Parse.expression n; let _ ← expect a; return g q)
      ⟨src, ts ++ c :: rest, d⟩ k (g p) ⟨src, rest, d⟩ := by
  have hr : Rule.expression.continues (next (c :: rest)) = false := by rw [next_cons, hc, ha]
  rw [← Nat.max_zero k]
  refine Settles.bind (hp (hb.inner (by decide)) hr) ?_ rfl
  exact Settles.after (expect_cons hc) (settles_pure hb.depth_le) rfl

lemma read_group (ho : o.kind = .openParen) (hc : c.kind = .closeParen)
    (hp : Read .expression ts p k) : Read .operand (o :: (ts ++ [c])) (.group p) k := by
  intro n m src rest d hb _
  obtain ⟨n, rfl⟩ := hb.pos
  refine settles_currentKind.mpr ?_
  simp only [List.cons_append, List.append_assoc, List.nil_append, next_cons, ho]
  exact settles_advance.mpr (settles_inside hc rfl hp hb)

lemma read_absolute (ho : o.kind = .bar) (hc : c.kind = .bar) (hp : Read .expression ts p k) :
    Read .operand (o :: (ts ++ [c])) (.absolute p) k := by
  intro n m src rest d hb _
  obtain ⟨n, rfl⟩ := hb.pos
  refine settles_currentKind.mpr ?_
  simp only [List.cons_append, List.append_assoc, List.nil_append, next_cons, ho]
  exact settles_advance.mpr (settles_inside hc rfl hp hb)

lemma Derives.read (h : Derives r ts p k) : Read r ts p k := by
  induction h with
  | expression _ ht ihl iht => exact read_expression ht ihl iht
  | sumEnd => exact read_sumEnd
  | sumNext ho _ ht ihq iht => exact read_sumNext ho ht ihq iht
  | term _ ht ihl iht => exact read_term ht ihl iht
  | productEnd => exact read_productEnd
  | productNext ho _ ht ihq iht => exact read_productNext ho ht ihq iht
  | minus hm _ ih => exact read_minus hm ih
  | unary h ih => exact read_unary h ih
  | raised hc _ _ ihb ihe => exact read_raised hc ihb ihe
  | power _ ih => exact read_power ih
  | number ht => exact read_number ht
  | measured ht hk hr => exact read_measured ht hk hr
  | quoted hk hr => exact read_quoted hk hr
  | access ht => exact read_access ht
  | callEmpty ht ho hc => exact read_callEmpty ht ho hc
  | call ht ho ha ih => exact read_call ht ho ha ih
  | lastArgument hc _ ih => exact read_lastArgument hc ih
  | nextArgument hc _ _ iha ihp => exact read_nextArgument hc iha ihp
  | group ho hc _ ih => exact read_group ho hc ih
  | absolute ho hc _ ih => exact read_absolute ho hc ih

end QuantityCalculator.Grammar
