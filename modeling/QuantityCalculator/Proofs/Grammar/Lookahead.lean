import QuantityCalculator.Proofs.Grammar.Basic

/-!
What one token tells: the kinds that a rule begins with, and those that it would go on with.
-/

namespace QuantityCalculator.Grammar

open Parse

def next (ts : List Token) : Token.Kind :=
  (ts.headD ⟨.endOfInput, "", {}⟩).kind

@[simp] lemma next_cons (t : Token) (ts : List Token) : next (t :: ts) = t.kind := rfl

lemma next_append {ts : List Token} (h : ts ≠ []) (us : List Token) : next (ts ++ us) = next ts := by
  obtain ⟨t, ts, rfl⟩ := List.exists_cons_of_ne_nil h
  rfl

def beginsOperand (k : Token.Kind) : Bool :=
  k = .number || k = .quotedUnit || k = .name || k = .openParen || k = .bar

def Rule.begins : Rule → Token.Kind → Bool
  | .sumAfter _, k => (additive? k).isSome
  | .productAfter _, k => (multiplicative? k).isSome
  | .operand, k | .power, k => beginsOperand k
  | _, k => beginsOperand k || k = .minus

/-- The kinds of token that cannot follow what a rule has read: the rule would have read on. -/
def Rule.continues : Rule → Token.Kind → Bool
  | .operand, k => isUnit k || k = .openParen
  | .power, k | .unary, k => isUnit k || k = .openParen || k = .caret
  | .term, k | .productAfter _, k =>
    isUnit k || k = .openParen || k = .caret || (multiplicative? k).isSome
  | .expression, k | .sumAfter _, k =>
    isUnit k || k = .openParen || k = .caret || (multiplicative? k).isSome || (additive? k).isSome
  | .argumentsAfter .., _ => false

variable {r : Rule} {ts us rest : List Token} {l p : Phrase} {k : Nat}

lemma Derives.begins (h : Derives r ts p k) (hs : ∀ l, r ≠ .sumAfter l) (hp : ∀ l, r ≠ .productAfter l) :
    ts ≠ [] ∧ r.begins (next ts) := by
  induction h with
  | sumEnd | sumNext => exact absurd rfl (hs _)
  | productEnd | productNext => exact absurd rfl (hp _)
  | expression _ _ ih | term _ _ ih | raised _ _ _ ih | lastArgument _ _ ih | nextArgument _ _ _ ih =>
    have := ih (by simp) (by simp)
    simp_all [next_append, Rule.begins]
  | unary _ ih | power _ ih =>
    have := ih (by simp) (by simp)
    simp_all [Rule.begins]
  | _ => simp_all [Rule.begins, beginsOperand]

lemma Derives.next_ne_minus (h : Derives .power ts p k) (us : List Token) :
    next (ts ++ us) ≠ .minus := by
  obtain ⟨hn, hb⟩ := h.begins (by simp) (by simp)
  rw [next_append hn]
  intro hm
  simp [hm, Rule.begins, beginsOperand] at hb

lemma Derives.next_ne_closeParen {f : String} {as : List Phrase}
    (h : Derives (.argumentsAfter f as) ts p k) (us : List Token) : next (ts ++ us) ≠ .closeParen := by
  obtain ⟨hn, hb⟩ := h.begins (by simp) (by simp)
  rw [next_append hn]
  intro hm
  simp [hm, Rule.begins, beginsOperand] at hb

lemma continues_of_additive {o : Operator} {a : Token.Kind} (h : additive? a = some o) :
    (Rule.sumAfter l).continues a ∧ Rule.term.continues a = false := by
  cases a <;> simp_all [additive?, Rule.continues, isUnit, multiplicative?]

lemma continues_of_multiplicative {o : Operator} {a : Token.Kind} (h : multiplicative? a = some o) :
    (Rule.productAfter l).continues a ∧ Rule.unary.continues a = false := by
  cases a <;> simp_all [Rule.continues, isUnit, multiplicative?]

lemma not_continues_operand {a : Token.Kind} (h : Rule.power.continues a = false) :
    Rule.operand.continues a = false ∧ a ≠ .caret := by
  simp_all [Rule.continues]

lemma not_continues_closing {c : Token}
    (h : c.kind = .closeParen ∨ c.kind = .comma ∨ c.kind = .bar) :
    Rule.expression.continues c.kind = false := by
  rcases h with h | h | h <;> rw [h] <;> rfl

lemma Derives.not_continues_term (h : Derives (.sumAfter l) us p k)
    (hr : Rule.expression.continues (next rest) = false) :
    Rule.term.continues (next (us ++ rest)) = false := by
  cases h with
  | sumEnd => simp_all [Rule.continues]
  | sumNext ho => exact (continues_of_additive (l := l) ho).2

lemma Derives.not_continues_unary (h : Derives (.productAfter l) us p k)
    (hr : Rule.term.continues (next rest) = false) :
    Rule.unary.continues (next (us ++ rest)) = false := by
  cases h with
  | productEnd => simp_all [Rule.continues]
  | productNext ho => exact (continues_of_multiplicative (l := l) ho).2

lemma Derives.kind_ne (h : Derives r ts p k) {t : Token} (ht : t ∈ ts) :
    t.kind ≠ .equal ∧ t.kind ≠ .endOfInput := by
  induction h with
  | sumNext ho | productNext ho => grind [additive?, multiplicative?]
  | measured | quoted => grind [isUnit]
  | _ => grind

end QuantityCalculator.Grammar
