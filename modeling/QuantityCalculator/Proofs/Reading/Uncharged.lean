import QuantityCalculator.Proofs.Reading.LongPaths

/-!
The operators that are charged too late to bound the paths through their left operands. Main
statement: a path has no more nestings than the charges that are needed and such operators.
-/

namespace QuantityCalculator

def Operator.isSum : Operator → Bool
  | .add | .subtract => true
  | _ => false

namespace Phrase

/-- No path has a nesting. -/
def flat : Phrase → Bool
  | binary o l r => o = .power && l.flat && r.flat
  | negate _ | absolute _ | group _ | call .. => false
  | measured v u => v.flat && u.flat
  | define _ p | defineFunction _ _ p | evaluate p | exclude p => p.flat
  | _ => true

/-- A flat operand, or a chain of such. -/
def flatChain (sum : Bool) : Phrase → Bool
  | binary o l r =>
    if o = .power then l.flat && r.flat else o.isSum = sum && l.flatChain sum && r.flat
  | p => p.flat

def operators (sum : Bool) : Phrase → Nat
  | binary o l _ => if o ≠ .power ∧ o.isSum = sum then l.operators sum + 1 else 0
  | _ => 0

mutual

/-- The most operators on a path that it leaves through a left operand with nestings of its own.
They are not charged yet when that operand is read. -/
def uncharged : Phrase → Nat
  | binary o l r =>
    max (l.uncharged + if o = .power || l.flatChain o.isSum then 0 else 1) r.uncharged
  | negate p | absolute p | group p => p.uncharged
  | measured v u => max v.uncharged u.uncharged
  | call _ as => unchargedAmong as
  | define _ p | defineFunction _ _ p | evaluate p | exclude p => p.uncharged
  | _ => 0

def unchargedAmong : List Phrase → Nat
  | [] => 0
  | p :: ps => max p.uncharged (unchargedAmong ps)

end

def Bounded (p : Phrase) (n : Nat) : Prop :=
  p.Within (n + p.uncharged)

variable {p q l r : Phrase} {ps : List Phrase} {o : Operator} {sum : Bool} {m n : Nat}

lemma Bounded.mono (h : p.Bounded m) (hmn : m ≤ n) : p.Bounded n :=
  Within.mono h (Nat.add_le_add_right hmn _)

lemma uncharged_le_among (h : p ∈ ps) : p.uncharged ≤ unchargedAmong ps := by
  induction ps with
  | nil => contradiction
  | cons q ps ih =>
    rw [unchargedAmong]
    rcases List.mem_cons.mp h with rfl | h
    · exact Nat.le_max_left ..
    · exact (ih h).trans (Nat.le_max_right ..)

lemma uncharged_le_of_child (h : q ∈ p.children) : q.uncharged ≤ p.uncharged := by
  cases p with
  | binary o l r | measured v u =>
    simp only [children, List.mem_cons, List.not_mem_nil, or_false] at h
    obtain rfl | rfl := h <;> simp only [uncharged] <;> omega
  | call f as => exact uncharged_le_among h
  | negate | absolute | group | define | defineFunction | evaluate | exclude =>
    obtain rfl := List.mem_singleton.mp h
    exact Nat.le_refl _
  | _ => contradiction

lemma bounded_of_children (h : ∀ q ∈ p.children, q.Bounded n) :
    p.Bounded (n + if p.isNesting then 1 else 0) := by
  have hw := within_of_children fun q hq => Within.mono (h q hq)
    (Nat.add_le_add_left (uncharged_le_of_child hq) n)
  exact hw.mono (by omega)

lemma bounded_of_nesting (h : ∀ q ∈ p.children, q.Bounded n) : p.Bounded (n + 1) := by
  apply (bounded_of_children h).mono
  split <;> omega

lemma bounded_of_not_nesting (hp : p.isNesting = false) (h : ∀ q ∈ p.children, q.Bounded n) :
    p.Bounded n := by
  simpa [hp] using bounded_of_children h

lemma bounded_of_leaf (hq : p.children = []) (hp : p.isNesting = false) : p.Bounded n :=
  bounded_of_not_nesting hp (by simp [hq])

lemma flat_children (h : p.flat) : p.isNesting = false ∧ ∀ q ∈ p.children, q.flat := by
  cases p with
  | binary o l r =>
    obtain ⟨⟨rfl, hl⟩, hr⟩ := by simpa [flat] using h
    exact ⟨rfl, by simpa [children] using ⟨hl, hr⟩⟩
  | negate | absolute | group | call => contradiction
  | measured v u => exact ⟨rfl, by simpa [children, flat] using h⟩
  | define | defineFunction | evaluate | exclude =>
    exact ⟨rfl, by simpa [children, flat] using h⟩
  | _ => exact ⟨rfl, List.forall_mem_nil _⟩

lemma within_of_flat (h : p.flat) : p.Within 0 := by
  intro path hp
  induction hp with
  | leaf => simp [(flat_children h).1, nesting]
  | step hq _ ih =>
    obtain ⟨hn, hc⟩ := flat_children h
    simpa [nesting_cons, hn] using ih (hc _ hq)

lemma within_of_flatChain (h : p.flatChain sum) : p.Within (p.operators sum) := by
  fun_induction flatChain sum p with
  | case1 l r =>
    have hf : (binary .power l r).flat := by simpa [flat] using h
    exact (within_of_flat hf).mono (Nat.zero_le _)
  | case2 o l r ho ih =>
    obtain ⟨⟨hs, hl⟩, hr⟩ := by simpa using h
    rw [operators, if_pos ⟨ho, hs⟩]
    apply within_of_nesting
    simpa [children] using ⟨ih hl, (within_of_flat hr).mono (Nat.zero_le _)⟩
  | case3 p _ => exact (within_of_flat h).mono (Nat.zero_le _)

lemma bounded_flat_binary (hl : l.Within n) (hr : r.Bounded n) :
    (binary o l r).Bounded (n + 1) := by
  apply bounded_of_nesting
  simpa [children] using ⟨hl.mono (Nat.le_add_right ..), hr⟩

lemma bounded_binary (ho : o ≠ .power) (hc : l.flatChain o.isSum = false) (hl : l.Bounded n)
    (hr : r.Bounded m) : (binary o l r).Bounded (max n (m + 1)) := by
  have hu : (binary o l r).uncharged = max (l.uncharged + 1) r.uncharged := by
    simp [uncharged, ho, hc]
  have hl := Within.mono hl (Nat.le_max_left _ (m + r.uncharged))
  have hr := Within.mono hr (Nat.le_max_right (n + l.uncharged) _)
  have hw : (binary o l r).Within (max (n + l.uncharged) (m + r.uncharged) + 1) :=
    within_of_nesting (by simpa [children] using ⟨hl, hr⟩)
  apply hw.mono
  omega

end Phrase

namespace Grammar

open Parse Phrase

/-- What `k` charges tell of a phrase that is a chain through `l`. -/
def Chained (sum : Bool) (l p : Phrase) (k : Nat) : Prop :=
  if l.flatChain sum then p.Bounded (l.operators sum + k + 1)
  else ∀ n, l.Bounded n → p.Bounded (max n (k + 1))

def Rule.Bounds : Rule → Phrase → Nat → Prop
  | .expression, p, k => p.Bounded k
  | .sumAfter l, p, k => Chained true l p k
  | .productAfter l, p, k => Chained false l p k
  | .argumentsAfter _ as, p, k => ∀ n, (∀ a ∈ as, a.Bounded n) → p.Bounded (max n k + 1)
  | _, p, k => p.Bounded (k + 1)

/-- Which chains a phrase is not. -/
def Rule.Heads : Rule → Phrase → Prop
  | .expression, _ | .sumAfter _, _ => True
  | .term, p => p.operators true = 0
  | .productAfter l, p => l.operators true = 0 → p.operators true = 0
  | _, p => ∀ sum, p.operators sum = 0

variable {r : Rule} {ts : List Token} {p l q : Phrase} {o : Operator} {sum : Bool} {j k n : Nat}
  {s : String}

lemma isSum_of_additive {a : Token.Kind} (h : additive? a = some o) :
    o ≠ .power ∧ o.isSum = true := by
  unfold additive? at h
  split at h <;> cases h <;> exact ⟨nofun, rfl⟩

lemma isSum_of_multiplicative {a : Token.Kind} (h : multiplicative? a = some o) :
    o ≠ .power ∧ o.isSum = false := by
  unfold multiplicative? at h
  split at h <;> cases h <;> exact ⟨nofun, rfl⟩

lemma Derives.heads (h : Derives r ts p k) : r.Heads p := by
  induction h with
  | expression | sumEnd | sumNext => trivial
  | productEnd => exact id
  | @productNext _ o _ _ l q _ _ _ ho _ _ _ ihp =>
    intro _
    apply ihp
    simp [operators, isSum_of_multiplicative ho]
  | term _ _ ihl ihp => exact ihp (ihl true)
  | unary _ ih | power _ ih => exact ih
  | call _ _ _ ih => exact ih
  | nextArgument _ _ _ _ ih => exact ih
  | _ => exact fun _ => rfl

lemma chained_end : Chained sum p p 0 := by
  rw [Chained]
  split
  · next h => exact Within.mono (within_of_flatChain h) (by omega)
  · exact fun n hn => hn.mono (Nat.le_max_left ..)

lemma chained_next (ho : o ≠ .power) (hs : o.isSum = sum) (hq : q.Bounded (j + 1))
    (hp : Chained sum (.binary o l q) p k) : Chained sum l p (max j k + 1) := by
  subst hs
  have hc : (binary o l q).flatChain o.isSum = (l.flatChain o.isSum && q.flat) := by
    simp [flatChain, ho]
  have hn : (binary o l q).operators o.isSum = l.operators o.isSum + 1 := by
    simp [operators, ho]
  rw [Chained, hc, hn] at hp
  rw [Chained]
  by_cases hl : l.flatChain o.isSum
  · rw [if_pos hl]
    -- The first operand that nests ends what is charged at once.
    by_cases hf : q.flat
    · rw [if_pos (by simp [hl, hf])] at hp
      exact hp.mono (by omega)
    · rw [if_neg (by simp [hf])] at hp
      have hw := (within_of_flatChain hl).mono (Nat.le_max_left _ (j + 1))
      have hb := bounded_flat_binary (o := o) hw (hq.mono (Nat.le_max_right _ _))
      exact (hp _ hb).mono (by omega)
  · rw [if_neg hl]
    rw [if_neg (by simp [hl])] at hp
    intro n hn
    exact (hp _ (bounded_binary ho (by simpa using hl) hn hq)).mono (by omega)

lemma Chained.bounded (h : Chained sum l p k) (hl : l.Bounded (j + 1))
    (h0 : l.operators sum = 0) : p.Bounded (max j k + 1) := by
  rw [Chained] at h
  split at h
  · exact h.mono (by omega)
  · exact (h _ hl).mono (by omega)

lemma Derives.bounds (h : Derives r ts p k) : r.Bounds p k := by
  -- What is charged at once is a chain of flat operands, or one operand that nests.
  induction h with
  | expression hl _ ihl ihp => exact ihp.bounded ihl hl.heads
  | sumEnd | productEnd => exact chained_end
  | sumNext ho _ _ ihq ihp =>
    obtain ⟨ho, hs⟩ := isSum_of_additive ho
    exact chained_next ho hs ihq ihp
  | productNext ho _ _ ihq ihp =>
    obtain ⟨ho, hs⟩ := isSum_of_multiplicative ho
    exact chained_next ho hs ihq ihp
  | term hl _ ihl ihp => exact ihp.bounded ihl (hl.heads false)
  | minus _ _ ih => exact bounded_of_nesting (by simpa [children, Rule.Bounds] using ih)
  | unary _ ih | power _ ih => exact ih
  | @raised _ _ _ b e j k _ _ _ ihb ihe =>
    refine bounded_of_not_nesting rfl ?_
    have hb := ihb.mono (Nat.add_le_add_right (Nat.le_max_left j (k + 1)) 1)
    have he := ihe.mono (Nat.le_succ_of_le (Nat.le_max_right j (k + 1)))
    simpa [children] using ⟨hb, he⟩
  | number | access => exact bounded_of_leaf rfl rfl
  | measured | quoted =>
    refine bounded_of_not_nesting rfl ?_
    simpa [children] using ⟨bounded_of_leaf rfl rfl, bounded_of_leaf rfl rfl⟩
  | callEmpty => exact bounded_of_nesting (by simp [children])
  | call _ _ _ ih => simpa [Rule.Bounds] using ih 0 (List.forall_mem_nil _)
  | lastArgument _ _ ih =>
    intro n hn
    refine bounded_of_nesting fun q hq => ?_
    obtain hq | rfl := by simpa [children] using hq
    · exact (hn q hq).mono (Nat.le_max_left ..)
    · exact ih.mono (Nat.le_max_right ..)
  | @nextArgument _ f as a p _ _ j k _ _ _ iha ihp =>
    intro n hn
    have hp := ihp (max n j) fun q hq => by
      obtain hq | rfl := by simpa using hq
      · exact (hn q hq).mono (Nat.le_max_left ..)
      · exact iha.mono (Nat.le_max_right ..)
    exact hp.mono (by omega)
  | group _ _ _ ih | absolute _ _ _ ih =>
    exact bounded_of_nesting (by simpa [children, Rule.Bounds] using ih)

lemma Statement.bounded (h : Statement ts p k) : p.Bounded k := by
  cases h with
  | expression h => exact h.bounds
  | define _ _ h | defineFunction _ h =>
    exact bounded_of_not_nesting rfl (by simpa [children, Rule.Bounds] using h.bounds)

lemma Line.bounded (h : Line ts p k) : p.Bounded k := by
  cases h with
  | statement h | evaluate _ h | exclude _ h =>
    exact bounded_of_not_nesting rfl (by simpa [children] using h.bounded)
  | newline | exit | quit => exact bounded_of_leaf rfl rfl

lemma Needs.bounded (h : Needs s p k) : p.Bounded k := by
  cases h with
  | line h =>
    obtain ⟨ts, e, -, -, hl⟩ := h
    exact hl.bounded
  | expression _ _ h => exact h.bounds
  | render => exact bounded_of_leaf rfl rfl

/-- A text that is read needs no more charges than the limit. If those that it needs are within it
together with the operators that are not charged in time, the limit bounds the paths. -/
theorem paths_within_limit (h : Phrase.parse s = .ok p ∨ Phrase.parseExpression s = .ok p) :
    (∃ k ≤ limit, Needs s p k) ∧ ∀ k, Needs s p k → k + p.uncharged ≤ limit → p.Within limit :=
  ⟨needs_of_read h, fun _ hk hu => Within.mono hk.bounded hu⟩

theorem short_chain_is_within_limit :
    ∃ p, Phrase.parse "f()*x+x" = .ok p ∧ p.uncharged = 2 ∧ p.Within limit := by
  have hd : Derivable "f()*x+x" _ _ := (spells_call.expression 1 1).derivable
  have hp := parse_of_derivable hd (by decide)
  refine ⟨_, hp, rfl, (paths_within_limit (.inl hp)).2 2 (.line hd) ?_⟩
  decide

/-- Fifteen charges admit a path longer than the limit. -/
theorem limit_does_not_bound_paths :
    ¬ ∀ s p, Phrase.parse s = .ok p ∨ Phrase.parseExpression s = .ok p → p.Within limit := by
  intro h
  obtain ⟨p, path, hp, hq, hn⟩ := parse_deepest (n := 14) (by decide)
  have hl := h _ p (.inl hp) path hq
  rw [hn] at hl
  exact absurd hl (by decide)

end Grammar

end QuantityCalculator
