import QuantityCalculator.Proofs.Grammar.Lookahead

/-!
The grammar is unambiguous: a line has one derivation, so one phrase and one number of charges.
-/

namespace QuantityCalculator.Grammar

open Parse

/-- Whatever a rule reads where it reads `ts`, it reads `ts` as `p`, under `j` charges. -/
def Unique (r : Rule) (ts : List Token) (p : Phrase) (j : Nat) : Prop :=
  ∀ {ts' us us' p' k}, Derives r ts' p' k → ts ++ us = ts' ++ us' →
    r.continues (next us) = false → r.continues (next us') = false → ts = ts' ∧ p = p' ∧ j = k

variable {ts us : List Token} {t o c : Token} {l q p : Phrase} {j k : Nat} {f : String}
  {as : List Phrase}

lemma unique_expression (ht : Derives (.sumAfter l) us p k) (hl : Unique .term ts l j)
    (hp : Unique (.sumAfter l) us p k) : Unique .expression (ts ++ us) p (max j k + 1) := by
  intro _ _ _ _ _ h' he hu hu'
  cases h' with
  | expression hl' ht' =>
    simp only [List.append_assoc] at he
    obtain ⟨rfl, rfl, rfl⟩ := hl hl' he (ht.not_continues_term hu) (ht'.not_continues_term hu')
    obtain ⟨rfl, rfl, rfl⟩ := hp ht' (List.append_cancel_left he) hu hu'
    simp

lemma unique_sumEnd : Unique (.sumAfter p) [] p 0 := by
  intro _ _ _ _ _ h' he hu hu'
  cases h' with
  | sumEnd => simp
  | sumNext ho =>
    have hc := (continues_of_additive (l := p) ho).1
    rw [List.nil_append] at he
    rw [he, List.cons_append, next_cons, hc] at hu
    contradiction

lemma unique_sumNext {o : Operator} (ho : additive? t.kind = some o)
    (ht : Derives (.sumAfter (.binary o l q)) us p k) (hq : Unique .term ts q j)
    (hp : Unique (.sumAfter (.binary o l q)) us p k) :
    Unique (.sumAfter l) (t :: (ts ++ us)) p (max j k + 1) := by
  intro _ _ _ _ _ h' he hu hu'
  cases h' with
  | sumEnd =>
    have hc := (continues_of_additive (l := l) ho).1
    rw [List.nil_append] at he
    rw [← he, List.cons_append, next_cons, hc] at hu'
    contradiction
  | sumNext ho' hl' ht' =>
    simp only [List.cons_append, List.append_assoc, List.cons.injEq] at he
    obtain ⟨rfl, he⟩ := he
    obtain rfl := Option.some.inj (ho.symm.trans ho')
    obtain ⟨rfl, rfl, rfl⟩ := hq hl' he (ht.not_continues_term hu) (ht'.not_continues_term hu')
    obtain ⟨rfl, rfl, rfl⟩ := hp ht' (List.append_cancel_left he) hu hu'
    simp

lemma unique_term (ht : Derives (.productAfter l) us p k) (hl : Unique .unary ts l j)
    (hp : Unique (.productAfter l) us p k) : Unique .term (ts ++ us) p (max j k) := by
  intro _ _ _ _ _ h' he hu hu'
  cases h' with
  | term hl' ht' =>
    simp only [List.append_assoc] at he
    obtain ⟨rfl, rfl, rfl⟩ := hl hl' he (ht.not_continues_unary hu) (ht'.not_continues_unary hu')
    obtain ⟨rfl, rfl, rfl⟩ := hp ht' (List.append_cancel_left he) hu hu'
    simp

lemma unique_productEnd : Unique (.productAfter p) [] p 0 := by
  intro _ _ _ _ _ h' he hu hu'
  cases h' with
  | productEnd => simp
  | productNext ho =>
    have hc := (continues_of_multiplicative (l := p) ho).1
    rw [List.nil_append] at he
    rw [he, List.cons_append, next_cons, hc] at hu
    contradiction

lemma unique_productNext {o : Operator} (ho : multiplicative? t.kind = some o)
    (ht : Derives (.productAfter (.binary o l q)) us p k) (hq : Unique .unary ts q j)
    (hp : Unique (.productAfter (.binary o l q)) us p k) :
    Unique (.productAfter l) (t :: (ts ++ us)) p (max j k + 1) := by
  intro _ _ _ _ _ h' he hu hu'
  cases h' with
  | productEnd =>
    have hc := (continues_of_multiplicative (l := l) ho).1
    rw [List.nil_append] at he
    rw [← he, List.cons_append, next_cons, hc] at hu'
    contradiction
  | productNext ho' hl' ht' =>
    simp only [List.cons_append, List.append_assoc, List.cons.injEq] at he
    obtain ⟨rfl, he⟩ := he
    obtain rfl := Option.some.inj (ho.symm.trans ho')
    obtain ⟨rfl, rfl, rfl⟩ := hq hl' he (ht.not_continues_unary hu) (ht'.not_continues_unary hu')
    obtain ⟨rfl, rfl, rfl⟩ := hp ht' (List.append_cancel_left he) hu hu'
    simp

lemma unique_minus (hm : t.kind = .minus) (hp : Unique .unary ts p k) :
    Unique .unary (t :: ts) (.negate p) (k + 1) := by
  intro _ us us' _ _ h' he hu hu'
  cases h' with
  | minus _ h' =>
    simp only [List.cons_append, List.cons.injEq] at he
    obtain ⟨rfl, rfl, rfl⟩ := hp h' he.2 hu hu'
    simp [he.1]
  | unary h' =>
    have := h'.next_ne_minus us'
    simp [← he, hm] at this

lemma unique_unary (h : Derives .power ts p k) (hp : Unique .power ts p k) : Unique .unary ts p k := by
  intro _ us us' _ _ h' he hu hu'
  cases h' with
  | minus hm =>
    have := h.next_ne_minus us
    simp [he, hm] at this
  | unary h' => exact hp h' he hu hu'

lemma unique_raised {b e : Phrase} (hc : t.kind = .caret) (hb : Unique .operand ts b j)
    (hp : Unique .unary us e k) : Unique .power (ts ++ t :: us) (.binary .power b e) (max j (k + 1)) := by
  intro _ _ us' _ _ h' he hu hu'
  simp only [List.append_assoc, List.cons_append] at he
  have ht : Rule.operand.continues t.kind = false := by simp [hc, Rule.continues, isUnit]
  cases h' with
  | raised hc' hb' he' =>
    simp only [List.append_assoc, List.cons_append] at he
    obtain ⟨rfl, rfl, rfl⟩ := hb hb' he ht (by simp [hc', Rule.continues, isUnit])
    obtain ⟨rfl, ht⟩ := List.cons.inj (List.append_cancel_left he)
    obtain ⟨rfl, rfl, rfl⟩ := hp he' ht hu hu'
    simp
  | power h' =>
    -- The second reading would stop before the caret, where a power goes on.
    obtain ⟨rfl, -⟩ := hb h' he ht (not_continues_operand hu').1
    have hk := congrArg next (List.append_cancel_left he)
    exact absurd (hk.symm.trans hc) (not_continues_operand hu').2

lemma unique_power (hp : Unique .operand ts p k) : Unique .power ts p k := by
  intro _ us _ _ _ h' he hu hu'
  have hn := not_continues_operand hu
  cases h' with
  | raised hc' hb' _ =>
    simp only [List.append_assoc, List.cons_append] at he
    obtain ⟨rfl, -⟩ := hp hb' he hn.1 (by simp [hc', Rule.continues, isUnit])
    have hk := congrArg next (List.append_cancel_left he)
    exact absurd (hk.trans hc') hn.2
  | power h' => exact hp h' he hn.1 (not_continues_operand hu').1

lemma unique_number (ht : t.kind = .number) : Unique .operand [t] (.number t.text) 0 := by
  intro _ us us' _ _ h' he hu hu'
  cases h' with
  | number => simp_all
  | measured _ hk =>
    obtain ⟨rfl, rfl⟩ := by simpa using he
    simp_all [Rule.continues]
  | _ => simp_all

lemma unique_measured {u : Token} {fs : List Factor} (ht : t.kind = .number) (hk : isUnit u.kind)
    (hr : Resolves u.text fs) :
    Unique .operand [t, u] (.measured (.number t.text) (.unit fs)) 0 := by
  intro _ us us' _ _ h' he hu hu'
  cases h' with
  | number =>
    obtain ⟨rfl, rfl⟩ := by simpa using he
    simp_all [Rule.continues]
  | measured _ _ hr' =>
    obtain ⟨rfl, rfl, rfl⟩ := by simpa using he
    simp_all [Resolves]
  | _ => simp_all

lemma unique_quoted {u : Token} {fs : List Factor} (hk : u.kind = .quotedUnit)
    (hr : Resolves u.text fs) : Unique .operand [u] (.measured (.number "") (.unit fs)) 0 := by
  intro _ us us' _ _ h' he hu hu'
  cases h' with
  | quoted _ hr' =>
    obtain ⟨rfl, rfl⟩ := by simpa using he
    simp_all [Resolves]
  | _ => simp_all

lemma unique_access (ht : t.kind = .name) : Unique .operand [t] (.access t.text) 0 := by
  intro _ us us' _ _ h' he hu hu'
  cases h' with
  | access => simp_all
  | callEmpty _ ho | call _ ho =>
    obtain ⟨rfl, rfl⟩ := by simpa using he
    simp_all [Rule.continues]
  | _ => simp_all

lemma unique_callEmpty (ht : t.kind = .name) (ho : o.kind = .openParen) (hc : c.kind = .closeParen) :
    Unique .operand [t, o, c] (.call t.text []) 0 := by
  intro _ us us' _ _ h' he hu hu'
  cases h' with
  | access =>
    obtain ⟨rfl, rfl⟩ := by simpa using he
    simp_all [Rule.continues]
  | callEmpty => simp_all
  | call _ _ ha =>
    have := ha.next_ne_closeParen us'
    simp only [List.cons_append, List.nil_append, List.cons.injEq] at he
    simp [← he.2.2, hc] at this
  | _ => simp_all

lemma unique_call (ht : t.kind = .name) (ho : o.kind = .openParen)
    (ha : Derives (.argumentsAfter t.text []) ts p k) (hp : Unique (.argumentsAfter t.text []) ts p k) :
    Unique .operand (t :: o :: ts) p k := by
  intro _ us us' _ _ h' he hu hu'
  cases h' with
  | access =>
    obtain ⟨rfl, rfl⟩ := by simpa using he
    simp_all [Rule.continues]
  | callEmpty _ _ hc =>
    have := ha.next_ne_closeParen us
    simp only [List.cons_append, List.nil_append, List.cons.injEq] at he
    simp [he.2.2, hc] at this
  | call _ _ ha' =>
    simp only [List.cons_append, List.cons.injEq] at he
    obtain ⟨rfl, rfl, he⟩ := he
    obtain ⟨rfl, rfl, rfl⟩ := hp ha' he rfl rfl
    simp
  | _ => simp_all

lemma unique_lastArgument {a : Phrase} (hc : c.kind = .closeParen) (ha : Unique .expression ts a k) :
    Unique (.argumentsAfter f as) (ts ++ [c]) (.call f (as ++ [a])) k := by
  intro _ us us' _ _ h' he hu hu'
  have hk := not_continues_closing (.inl hc)
  cases h' with
  | lastArgument hc' ha' =>
    simp only [List.append_assoc, List.cons_append, List.nil_append] at he
    obtain ⟨rfl, rfl, rfl⟩ := ha ha' he hk (not_continues_closing (.inl hc'))
    simp_all
  | nextArgument hc' ha' _ =>
    simp only [List.append_assoc, List.cons_append, List.nil_append] at he
    obtain ⟨rfl, -⟩ := ha ha' he hk (not_continues_closing (.inr (.inl hc')))
    simp_all

lemma unique_nextArgument {a : Phrase} (hc : c.kind = .comma) (ha : Unique .expression ts a j)
    (hp : Unique (.argumentsAfter f (as ++ [a])) us p k) :
    Unique (.argumentsAfter f as) (ts ++ c :: us) p (max j k) := by
  intro _ _ us' _ _ h' he hu hu'
  have hk := not_continues_closing (.inr (.inl hc))
  cases h' with
  | lastArgument hc' ha' =>
    simp only [List.append_assoc, List.cons_append, List.nil_append] at he
    obtain ⟨rfl, -⟩ := ha ha' he hk (not_continues_closing (.inl hc'))
    simp_all
  | nextArgument hc' ha' hp' =>
    simp only [List.append_assoc, List.cons_append] at he
    obtain ⟨rfl, rfl, rfl⟩ := ha ha' he hk (not_continues_closing (.inr (.inl hc')))
    obtain ⟨rfl, ht⟩ := List.cons.inj (List.append_cancel_left he)
    obtain ⟨rfl, rfl, rfl⟩ := hp hp' ht hu hu'
    simp

lemma unique_group (ho : o.kind = .openParen) (hc : c.kind = .closeParen)
    (hp : Unique .expression ts p k) : Unique .operand (o :: (ts ++ [c])) (.group p) k := by
  intro _ us us' _ _ h' he hu hu'
  cases h' with
  | group _ hc' h' =>
    simp only [List.append_assoc, List.cons_append, List.nil_append, List.cons.injEq] at he
    obtain ⟨rfl, rfl, rfl⟩ :=
      hp h' he.2 (not_continues_closing (.inl hc)) (not_continues_closing (.inl hc'))
    simp_all
  | _ => simp_all

lemma unique_absolute (ho : o.kind = .bar) (hc : c.kind = .bar)
    (hp : Unique .expression ts p k) : Unique .operand (o :: (ts ++ [c])) (.absolute p) k := by
  intro _ us us' _ _ h' he hu hu'
  cases h' with
  | absolute _ hc' h' =>
    simp only [List.append_assoc, List.cons_append, List.nil_append, List.cons.injEq] at he
    obtain ⟨rfl, rfl, rfl⟩ :=
      hp h' he.2 (not_continues_closing (.inr (.inr hc))) (not_continues_closing (.inr (.inr hc')))
    simp_all
  | _ => simp_all

lemma Derives.unique {r : Rule} (h : Derives r ts p k) : Unique r ts p k := by
  induction h with
  | expression _ ht ihl iht => exact unique_expression ht ihl iht
  | sumEnd => exact unique_sumEnd
  | sumNext ho _ ht ihq iht => exact unique_sumNext ho ht ihq iht
  | term _ ht ihl iht => exact unique_term ht ihl iht
  | productEnd => exact unique_productEnd
  | productNext ho _ ht ihq iht => exact unique_productNext ho ht ihq iht
  | minus hm _ ih => exact unique_minus hm ih
  | unary h ih => exact unique_unary h ih
  | raised hc _ _ ihb ihe => exact unique_raised hc ihb ihe
  | power _ ih => exact unique_power ih
  | number ht => exact unique_number ht
  | measured ht hk hr => exact unique_measured ht hk hr
  | quoted hk hr => exact unique_quoted hk hr
  | access ht => exact unique_access ht
  | callEmpty ht ho hc => exact unique_callEmpty ht ho hc
  | call ht ho ha ih => exact unique_call ht ho ha ih
  | lastArgument hc _ ih => exact unique_lastArgument hc ih
  | nextArgument hc _ _ iha ihp => exact unique_nextArgument hc iha ihp
  | group ho hc _ ih => exact unique_group ho hc ih
  | absolute ho hc _ ih => exact unique_absolute ho hc ih

lemma Derives.unique_whole {r : Rule} {p' : Phrase} (h : Derives r ts p j) (h' : Derives r ts p' k) :
    p = p' ∧ j = k := by
  have hr : r.continues (next []) = false := by cases r <;> rfl
  exact (h.unique h' (rfl : ts ++ [] = ts ++ []) hr hr).2

lemma Parameters.unique {ts' us' : List Token} {xs xs' : List String} (h : Parameters ts xs)
    (h' : Parameters ts' xs') (he : ts ++ us = ts' ++ us') : ts = ts' ∧ xs = xs' := by
  induction h generalizing ts' xs' with
  | last ht hc => cases h' <;> simp_all
  | more ht hc _ ih =>
    cases h' with
    | last => simp_all
    | more _ _ h' =>
      simp only [List.cons_append, List.cons.injEq] at he
      obtain ⟨rfl, rfl⟩ := ih h' he.2.2
      simp_all

lemma Parameters.next_eq_name {xs : List String} (h : Parameters ts xs) (us : List Token) :
    next (ts ++ us) = .name := by
  cases h <;> assumption

lemma Head.unique {ts' us' : List Token} {g : String} {xs xs' : List String} (h : Head ts f xs)
    (h' : Head ts' g xs') (he : ts ++ us = ts' ++ us') : ts = ts' ∧ f = g ∧ xs = xs' := by
  cases h with
  | plain _ _ hc =>
    cases h' with
    | plain => simp_all
    | parameters _ _ hp =>
      simp only [List.cons_append, List.nil_append, List.cons.injEq, List.append_assoc] at he
      have hn := congrArg next he.2.2
      rw [hp.next_eq_name, next_cons, hc] at hn
      contradiction
  | parameters _ _ hp =>
    cases h' with
    | plain _ _ hc' =>
      simp only [List.cons_append, List.nil_append, List.cons.injEq, List.append_assoc] at he
      have hn := congrArg next he.2.2
      rw [hp.next_eq_name, next_cons, hc'] at hn
      contradiction
    | parameters _ _ hp' =>
      simp only [List.cons_append, List.append_assoc, List.cons.injEq] at he
      obtain ⟨rfl, rfl⟩ := hp.unique hp' he.2.2
      simp_all

lemma Head.equal_mem {xs : List String} (h : Head ts f xs) : ∃ e ∈ ts, e.kind = .equal := by
  cases h with
  | plain _ _ _ he | parameters _ _ _ he => exact ⟨_, by simp, he⟩

lemma Derives.not_head {r : Rule} {ts' us' : List Token} {xs : List String}
    (h : Derives r (ts' ++ us') p k) : ¬ Head ts' f xs := by
  intro hh
  obtain ⟨e, he, hk⟩ := hh.equal_mem
  exact (h.kind_ne (List.mem_append_left _ he)).1 hk

lemma Head.ne_cons {xs : List String} (h : Head ts f xs) {e : Token} {vs : List Token}
    (he : e.kind = .equal) : ts ++ us ≠ t :: e :: vs := by
  cases h <;> simp_all <;> grind

lemma Statement.unique {p' : Phrase} (h : Statement ts p j) (h' : Statement ts p' k) :
    p = p' ∧ j = k := by
  cases h with
  | expression h =>
    cases h' with
    | expression h' => exact h.unique_whole h'
    | define _ he => exact absurd he (h.kind_ne (by simp)).1
    | defineFunction hh => exact absurd hh h.not_head
  | @define t e ts _ _ _ he h =>
    generalize ht : t :: e :: ts = us at h'
    cases h' with
    | expression h' => exact absurd he (h'.kind_ne (by simp [← ht])).1
    | define _ _ h' =>
      obtain ⟨rfl, -, rfl⟩ := by simpa using ht
      obtain ⟨rfl, rfl⟩ := h.unique_whole h'
      simp
    | defineFunction hh => exact absurd ht.symm (hh.ne_cons he)
  | @defineFunction ts us _ _ _ _ hh h =>
    generalize ht : ts ++ us = vs at h'
    cases h' with
    | expression h' => exact absurd hh (ht ▸ h').not_head
    | define _ he => exact absurd ht (hh.ne_cons he)
    | defineFunction hh' h' =>
      obtain ⟨rfl, rfl, rfl⟩ := hh.unique hh' ht
      obtain rfl := List.append_cancel_left ht
      obtain ⟨rfl, rfl⟩ := h.unique_whole h'
      simp

lemma Statement.next_ne_colon (h : Statement ts p k) : next ts ≠ .colon := by
  cases h with
  | expression h =>
    obtain ⟨-, hb⟩ := h.begins (by simp) (by simp)
    intro hc
    simp [hc, Rule.begins, beginsOperand] at hb
  | define ht => simp [ht]
  | defineFunction hh => cases hh <;> simp_all

theorem Line.unique {p' : Phrase} (h : Line ts p j) (h' : Line ts p' k) : p = p' ∧ j = k := by
  cases h with
  | statement h =>
    have hc := h.next_ne_colon
    cases h' with
    | statement h' =>
      obtain ⟨rfl, rfl⟩ := h.unique h'
      simp
    | _ hk => exact absurd hk.1 hc
  | evaluate hk h =>
    cases h' with
    | statement h' => exact absurd hk.1 h'.next_ne_colon
    | evaluate _ h' =>
      obtain ⟨rfl, rfl⟩ := h.unique h'
      simp
    | _ => simp_all [Keyword]
  | exclude hk h =>
    cases h' with
    | statement h' => exact absurd hk.1 h'.next_ne_colon
    | exclude _ h' =>
      obtain ⟨rfl, rfl⟩ := h.unique h'
      simp
    | _ => simp_all [Keyword]
  | newline hk | exit hk | quit hk =>
    cases h' with
    | statement h' => exact absurd hk.1 h'.next_ne_colon
    | _ => simp_all [Keyword]

end QuantityCalculator.Grammar
