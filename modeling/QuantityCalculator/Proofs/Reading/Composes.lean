import QuantityCalculator.Proofs.Reading.Statement

/-!
What reading does to a parser. Main statement: a relation that the single actions keep, and that can be
put together from one action after the other, holds of whatever reads a line.
-/

namespace QuantityCalculator.Parse

open Grammar

/-- From `s` on, `x` reads as far as a parser that `R` relates to `s`, or fails at one that `E` does. -/
def Leads {α : Type} (R : Parser → Parser → Prop) (E : Error → Parser → Parser → Prop) (x : Parse α)
    (s : Parser) : Prop :=
  match x s with
  | (.ok _, s') => R s s'
  | (.error e, s') => E e s s'

/-- The relations allow to do nothing, one thing after another, to refuse and to take a token. -/
structure Composes (R : Parser → Parser → Prop) (E : Error → Parser → Parser → Prop) : Prop where
  refl : ∀ s, R s s
  trans : ∀ {s s₁ s'}, R s s₁ → R s₁ s' → R s s'
  error : ∀ {e s s₁ s'}, R s s₁ → E e s₁ s' → E e s s'
  refuse : ∀ e s, E (.parse e) s s
  advance : ∀ s, R s { s with tokens := s.tokens.tail }

/-- They allow to read under a charge as well, and what else a line may need. -/
structure Charges (R : Parser → Parser → Prop) (E : Error → Parser → Parser → Prop) : Prop
    extends Composes R E where
  tooDeep : ∀ s, E (.parse (.tooDeep limit)) s { s with depth := s.depth + 1 }
  released : ∀ {s s'}, R { s with depth := s.depth + 1 } s' → R s { s' with depth := s'.depth - 1 }
  kept : ∀ {e s s'}, E e { s with depth := s.depth + 1 } s' → E e s s'
  unit : ∀ {s}, isUnit (next s.tokens) → Leads R E unit s
  emptied : ∀ s, R s { s with tokens := [] }

variable {R : Parser → Parser → Prop} {E : Error → Parser → Parser → Prop} {α β : Type}
  {x : Parse α} {f : α → Parse β} {s s' : Parser} {a : α} {e : Error} {n : Nat} {l : Phrase}

lemma leads_of_ok (h : x s = (.ok a, s')) : Leads R E x s ↔ R s s' := by
  unfold Leads
  rw [h]

lemma leads_of_error (h : x s = (.error e, s')) : Leads R E x s ↔ E e s s' := by
  unfold Leads
  rw [h]

lemma unit_takes_or_fails (s : Parser) :
    (∃ p, unit s = (.ok p, { s with tokens := s.tokens.tail })) ∨ ∃ e, unit s = (.error e, s) := by
  rw [unit, current_bind]
  by_cases ht : s.current.text = ""
  · rw [if_pos ht]
    exact .inr ⟨_, rfl⟩
  · rw [if_neg ht]
    rcases Factor.split s.current.text with e | fs
    · exact .inr ⟨_, rfl⟩
    · rcases hd : Dimension.ofFactors fs with e | d
      · exact .inr ⟨_, (bind_of_ok ofUnit_ok).trans (by rw [hd]; rfl)⟩
      · exact .inl ⟨_, (bind_of_ok ofUnit_ok).trans (by rw [hd]; rfl)⟩

lemma leads_get_bind {f : Parser → Parse β} (h : Leads R E (f s) s) : Leads R E (get >>= f) s := h

lemma leads_current_bind {f : Token → Parse β} (h : Leads R E (f s.current) s) :
    Leads R E (current >>= f) s := h

lemma leads_currentKind_bind {f : Token.Kind → Parse β} (h : Leads R E (f (next s.tokens)) s) :
    Leads R E (currentKind >>= f) s := h

namespace Composes

variable (h : Composes R E)

include h

lemma pure : Leads R E (pure a) s :=
  h.refl s

lemma bind (hx : Leads R E x s) (hf : ∀ a s', Leads R E (f a) s') : Leads R E (x >>= f) s := by
  rcases hr : x s with ⟨e | a, s₁⟩
  · rw [leads_of_error hr] at hx
    exact (leads_of_error (bind_of_error hr)).mpr hx
  · rw [leads_of_ok hr] at hx
    have hb := bind_of_ok (f := f) hr
    have ha := hf a s₁
    rcases hr' : f a s₁ with ⟨e | b, s'⟩
    · rw [leads_of_error hr'] at ha
      exact (leads_of_error (hb.trans hr')).mpr (h.error hx ha)
    · rw [leads_of_ok hr'] at ha
      exact (leads_of_ok (hb.trans hr')).mpr (h.trans hx ha)

lemma map {g : α → β} (hx : Leads R E x s) : Leads R E (do return g (← x)) s :=
  h.bind hx fun _ _ => h.pure

lemma advance_bind {f : Unit → Parse β} (hf : ∀ s, Leads R E (f ()) s) :
    Leads R E (Parse.advance >>= f) s :=
  h.bind (h.advance s) fun _ => hf

lemma expect {k : Token.Kind} : Leads R E (expect k) s := by
  refine leads_current_bind ?_
  split
  · exact h.advance_bind fun _ => h.pure
  · exact h.refuse _ s

lemma attempt (hx : Leads R E x s) : Leads R E (attempt x) s := by
  rcases hr : x s with ⟨e | a, s'⟩
  · exact (leads_of_ok (attempt_of_error hr)).mpr (h.refl s)
  · rw [leads_of_ok hr] at hx
    exact (leads_of_ok (attempt_of_ok hr)).mpr hx

lemma separated (hx : ∀ s, Leads R E x s) (n : Nat) (s : Parser) : Leads R E (separated x n) s := by
  induction n generalizing s with
  | zero => exact h.pure
  | succ n ih =>
    refine h.bind (hx s) fun a s₁ => leads_currentKind_bind ?_
    split
    · exact h.advance_bind fun s => h.map (ih s)
    · exact h.pure

lemma listOf (hx : ∀ s, Leads R E x s) : Leads R E (listOf x) s := by
  refine h.bind h.expect fun _ s₁ => leads_currentKind_bind ?_
  split
  · exact h.advance_bind fun _ => h.pure
  · refine leads_get_bind (h.bind (h.separated hx _ s₁) fun _ _ => ?_)
    exact h.bind h.expect fun _ _ => h.pure

lemma functionHead : Leads R E functionHead s :=
  h.bind h.expect fun _ _ => h.bind (h.listOf fun _ => h.expect) fun _ _ =>
    h.bind h.expect fun _ _ => h.pure

lemma expectEnd : Leads R E expectEnd s := by
  refine leads_currentKind_bind ?_
  split
  · exact h.refuse _ s
  · exact h.pure

end Composes

namespace Charges

variable (h : Charges R E)

include h

lemma charged (hx : ∀ s, Leads R E x s) : Leads R E (charged x) s := by
  by_cases hd : s.depth < limit
  · have hc := bind_of_ok (f := fun _ => x >>= fun a => release >>= fun _ => pure a)
      (charge_of_lt hd)
    have hs := hx { s with depth := s.depth + 1 }
    rcases hr : x { s with depth := s.depth + 1 } with ⟨e | a, s'⟩
    · rw [leads_of_error hr] at hs
      exact (leads_of_error (hc.trans (bind_of_error hr))).mpr (h.kept hs)
    · rw [leads_of_ok hr] at hs
      exact (leads_of_ok (hc.trans (bind_of_ok hr))).mpr (h.released hs)
  · exact (leads_of_error (bind_of_error (charge_of_le (Nat.not_lt.mp hd)))).mpr (h.tooDeep s)

lemma number : Leads R E number s := by
  refine leads_current_bind (h.advance_bind fun s => leads_currentKind_bind ?_)
  split
  · next hu => exact h.map (h.unit hu)
  · exact h.pure

section Rules

variable (hn : ∀ r s, Leads R E (Rule.reader n 0 r) s)

include hn

lemma expression : Leads R E (expression (n + 1)) s :=
  h.charged fun s => h.bind (hn .term s) fun l => hn (.sumAfter l)

lemma sumAfter : Leads R E (sumAfter (n + 1) l) s := by
  refine leads_currentKind_bind ?_
  split
  · exact h.pure
  · exact h.charged fun _ => h.advance_bind fun s =>
      h.bind (hn .term s) fun r => hn (.sumAfter _)

lemma term : Leads R E (term (n + 1)) s :=
  h.bind (hn .unary s) fun l => hn (.productAfter l)

lemma productAfter : Leads R E (productAfter (n + 1) l) s := by
  refine leads_currentKind_bind ?_
  split
  · exact h.pure
  · exact h.charged fun _ => h.advance_bind fun s =>
      h.bind (hn .unary s) fun r => hn (.productAfter _)

lemma unary : Leads R E (unary (n + 1)) s := by
  refine leads_currentKind_bind ?_
  split
  · exact h.charged fun _ => h.advance_bind fun s => h.map (hn .unary s)
  · exact hn .power s

lemma power : Leads R E (power (n + 1)) s := by
  refine h.bind (hn .operand s) fun b s₁ => leads_currentKind_bind ?_
  split
  · exact h.charged fun _ => h.advance_bind fun s => h.map (hn .unary s)
  · exact h.pure

lemma inside {k : Token.Kind} {g : Phrase → Phrase} :
    Leads R E (do let q ← Parse.expression n; let _ ← Parse.expect k; return g q) s :=
  h.bind (hn .expression s) fun _ _ => h.bind h.expect fun _ _ => h.pure

lemma name {g : String} : Leads R E (do
    if (← currentKind) = .openParen then return Phrase.call g (← Parse.listOf (Parse.expression n))
    else return .access g) s := by
  refine leads_currentKind_bind ?_
  split
  · exact h.map (h.listOf (hn .expression))
  · exact h.pure

lemma operand : Leads R E (operand (n + 1)) s := by
  refine leads_currentKind_bind ?_
  split
  · exact h.number
  · next hk => exact h.map (h.unit (by simp [hk, isUnit]))
  · exact leads_current_bind (h.advance_bind fun _ => h.name hn)
  · exact h.advance_bind fun _ => h.inside hn
  · exact h.advance_bind fun _ => h.inside hn
  · exact h.refuse _ s

end Rules

lemma argumentsAfter {g : String} {as : List Phrase} {m : Nat}
    (hx : ∀ s, Leads R E (Parse.expression n) s) :
    Leads R E (Rule.reader n m (.argumentsAfter g as)) s :=
  h.bind (h.separated hx m s) fun _ _ => h.bind h.expect fun _ _ => h.pure

lemma reader (n m : Nat) (r : Rule) (s : Parser) : Leads R E (r.reader n m) s := by
  induction n generalizing m r s with
  | zero =>
    cases r with
    | argumentsAfter g as => exact h.argumentsAfter fun s => h.refuse _ s
    | _ => exact h.refuse _ s
  | succ n ih =>
    cases r with
    | expression => exact h.expression (ih 0)
    | sumAfter l => exact h.sumAfter (ih 0)
    | term => exact h.term (ih 0)
    | productAfter l => exact h.productAfter (ih 0)
    | unary => exact h.unary (ih 0)
    | power => exact h.power (ih 0)
    | operand => exact h.operand (ih 0)
    | argumentsAfter g as => exact h.argumentsAfter fun _ => h.expression (ih 0)

lemma wholeExpression : Leads R E wholeExpression s :=
  h.reader _ 0 .expression s

lemma definition : Leads R E definition s :=
  h.bind h.expect fun _ _ => h.bind h.expect fun _ _ => h.map h.wholeExpression

lemma functionOrExpression : Leads R E functionOrExpression s := by
  refine h.bind (h.attempt h.functionHead) fun head s₁ => ?_
  cases head with
  | none => exact h.wholeExpression
  | some => exact h.map h.wholeExpression

lemma statement : Leads R E statement s := by
  refine leads_get_bind ?_
  split
  · exact h.definition
  · split
    · exact h.functionOrExpression
    · exact h.wholeExpression

lemma renderPath : Leads R E renderPath s := by
  refine leads_get_bind ?_
  dsimp only
  split
  · exact h.refuse _ s
  · exact h.emptied s

lemma command : Leads R E command s := by
  refine h.bind h.expect fun _ _ => h.bind h.expect fun k s₁ => ?_
  split
  · exact h.pure
  · exact h.pure
  · exact h.pure
  · exact h.map h.statement
  · exact h.map h.statement
  · exact h.renderPath
  · exact h.refuse _ s₁

lemma line : Leads R E line s := by
  refine leads_currentKind_bind ?_
  split
  · exact h.bind h.command fun _ _ => h.bind h.expectEnd fun _ _ => h.pure
  · exact h.bind (h.map h.statement) fun _ _ => h.bind h.expectEnd fun _ _ => h.pure

lemma onlyExpression : Leads R E onlyExpression s :=
  h.bind h.wholeExpression fun _ _ => h.bind h.expectEnd fun _ _ => h.pure

end Charges

end QuantityCalculator.Parse
