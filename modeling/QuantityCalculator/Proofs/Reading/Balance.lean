import QuantityCalculator.Proofs.Reading.Composes

/-!
The balance of charges. Main statement: reading leaves as many charges as it found, and no fewer if it
fails; no charge is released that is not held, and what reads next finds what was found before.
-/

namespace QuantityCalculator

open Parse Grammar

namespace Parse

/-- From any parser on, `x` leaves as many charges as it found if it reads, and no fewer if it fails. -/
def Balanced {α : Type} (x : Parse α) : Prop :=
  ∀ s, Leads (fun s s' => s'.depth = s.depth) (fun _ s s' => s.depth ≤ s'.depth) x s

/-- Releases a charge; if none is held, that is the error `e`. -/
def releaseHeld (e : Error) : Parse Unit := do
  if (← get).depth = 0 then throw e
  release

/-- Reads under one more charge, and fails with `e` if it is not held any more afterwards. -/
def chargedHeld {α : Type} (e : Error) (x : Parse α) : Parse α := do
  charge
  let a ← x
  releaseHeld e
  return a

/-- The rules that charge, where it would be the error `e` to release what is not held. -/
structure ReleasesHeld (e : Error) (n : Nat) : Prop where
  expression : expression (n + 1) = chargedHeld e do sumAfter n (← term n)
  sumAfter : ∀ l, sumAfter (n + 1) l = do
    match additive? (← currentKind) with
    | none => return l
    | some o => chargedHeld e do
      advance
      let r ← term n
      sumAfter n (.binary o l r)
  productAfter : ∀ l, productAfter (n + 1) l = do
    match multiplicative? (← currentKind) with
    | none => return l
    | some o => chargedHeld e do
      advance
      let r ← unary n
      productAfter n (.binary o l r)
  unary : unary (n + 1) = do
    if (← currentKind) = .minus then
      chargedHeld e do
        advance
        return .negate (← unary n)
    else power n
  power : power (n + 1) = do
    let b ← operand n
    if (← currentKind) = .caret then
      chargedHeld e do
        advance
        return .binary .power b (← Parse.unary n)
    else return b

/-- Items are read one after the other, each with `d` charges held. -/
inductive ReadsEach {α : Type} (x : Parse α) (d : Nat) : Parser → List α → Parser → Prop
  | none {s} : ReadsEach x d s [] s
  | next {s s₁ s' a as ts} : s.depth = d → x s = (.ok a, s₁) →
      ReadsEach x d { s₁ with tokens := ts } as s' → ReadsEach x d s (a :: as) s'

end Parse

/-- What a parser can be asked for, more than once. -/
inductive Parser.Request where
  | line
  | expression

namespace Parser

def Request.read : Request → Parse Phrase
  | line => Parse.line
  | expression => Parse.onlyExpression

/-- One request after the other, also after a failure. -/
def answers (p : Parser) : List Request → List (Except Error Phrase) × Parser
  | [] => ([], p)
  | r :: rs =>
    let (a, q) := r.read p
    let (as, q) := answers q rs
    (a :: as, q)

end Parser

namespace Parse

variable {α : Type} {x : Parse α} {e : Error} {n m : Nat} {s s' : Parser} {as : List α}

lemma charges_depth : Charges (fun s s' => s'.depth = s.depth) fun _ s s' => s.depth ≤ s'.depth where
  refl _ := rfl
  trans h h' := h'.trans h
  error h h' := h ▸ h'
  refuse _ _ := Nat.le_refl _
  advance _ := rfl
  tooDeep _ := Nat.le_succ _
  released h := by simp only at h ⊢; omega
  kept h := by simp only at h ⊢; omega
  emptied _ := rfl
  unit {s} _ := by
    obtain ⟨p, h⟩ | ⟨e, h⟩ := unit_takes_or_fails s
    · exact (leads_of_ok h).mpr rfl
    · exact (leads_of_error h).mpr (Nat.le_refl _)

lemma Balanced.depth_eq (hx : Balanced x) {a : α} (h : x s = (.ok a, s')) : s'.depth = s.depth :=
  (leads_of_ok h).mp (hx s)

lemma balanced_reader (r : Rule) (n m : Nat) : Balanced (r.reader n m) :=
  charges_depth.reader n m r

lemma balanced_request (r : Parser.Request) : Balanced r.read := by
  intro s
  cases r with
  | line => exact charges_depth.line
  | expression => exact charges_depth.onlyExpression

/-- The charge that was taken is held still, so it makes no difference what comes of one that is not. -/
lemma Balanced.charged_eq (hx : Balanced x) (e : Error) : charged x = chargedHeld e x := by
  funext s
  by_cases hd : s.depth < limit
  · have hc := charge_of_lt hd
    refine (bind_of_ok hc).trans (Eq.trans ?_ (bind_of_ok hc).symm)
    rcases hr : x { s with depth := s.depth + 1 } with ⟨err | a, s'⟩
    · exact (bind_of_error hr).trans (bind_of_error hr).symm
    · have hh : ¬ s'.depth = 0 := hx.depth_eq hr ▸ Nat.succ_ne_zero _
      have hs : releaseHeld e s' = (.ok (), { s' with depth := s'.depth - 1 }) := by
        rw [releaseHeld, get_bind, if_neg hh]
        rfl
      exact (bind_of_ok hr).trans ((bind_of_ok hr).trans (bind_of_ok hs)).symm
  · have hc := charge_of_le (Nat.not_lt.mp hd)
    exact (bind_of_error hc).trans (bind_of_error hc).symm

lemma balanced_advance {f : Parse α} (hf : Balanced f) : Balanced (do advance; f) :=
  fun _ => charges_depth.advance_bind hf

lemma balanced_bind {β : Type} {f : α → Parse β} (hx : Balanced x) (hf : ∀ a, Balanced (f a)) :
    Balanced (x >>= f) :=
  fun s => charges_depth.bind (hx s) fun a => hf a

lemma balanced_map {β : Type} {g : α → β} (hx : Balanced x) : Balanced (do return g (← x)) :=
  fun s => charges_depth.map (hx s)

lemma releasesHeld (e : Error) (n : Nat) : ReleasesHeld e n where
  expression := by
    have hb : Balanced (do sumAfter n (← term n)) :=
      balanced_bind (balanced_reader .term n 0) fun l => balanced_reader (.sumAfter l) n 0
    exact hb.charged_eq e
  sumAfter l := by
    have hb (o : Operator) : Balanced (do advance; let r ← term n; sumAfter n (.binary o l r)) :=
      balanced_advance (balanced_bind (balanced_reader .term n 0) fun r =>
        balanced_reader (.sumAfter _) n 0)
    simp only [← (hb _).charged_eq e]
    rfl
  productAfter l := by
    have hb (o : Operator) : Balanced (do advance; let r ← unary n; productAfter n (.binary o l r)) :=
      balanced_advance (balanced_bind (balanced_reader .unary n 0) fun r =>
        balanced_reader (.productAfter _) n 0)
    simp only [← (hb _).charged_eq e]
    rfl
  unary := by
    have hb : Balanced (do advance; return Phrase.negate (← unary n)) :=
      balanced_advance (balanced_map (balanced_reader .unary n 0))
    simp only [← hb.charged_eq e]
    rfl
  power := by
    have hb (b : Phrase) : Balanced (do advance; return Phrase.binary .power b (← unary n)) :=
      balanced_advance (balanced_map (balanced_reader .unary n 0))
    simp only [← (hb _).charged_eq e]
    rfl

lemma Balanced.readsEach (hx : Balanced x) {d : Nat} (hd : s.depth = d)
    (h : separated x n s = (.ok as, s')) : ReadsEach x d s as s' := by
  induction n generalizing s as with
  | zero =>
    cases h
    exact .none
  | succ n ih =>
    obtain ⟨a, s₁, ha, ⟨rfl, rfl⟩ | ⟨-, bs, rfl, hb⟩⟩ := ok_of_separated h
    · exact .next hd ha .none
    · have hr : ReadsEach x d { s₁ with tokens := s₁.tokens.tail } bs s' :=
        ih ((hx.depth_eq ha).trans hd) hb
      exact .next hd ha hr

end Parse

namespace Parser

lemma answers_depth (p : Parser) (rs : List Request) : p.depth ≤ (p.answers rs).2.depth ∧
    ((∀ r ∈ (p.answers rs).1, ∃ a, r = .ok a) → (p.answers rs).2.depth = p.depth) := by
  induction rs generalizing p with
  | nil => exact ⟨Nat.le_refl _, fun _ => rfl⟩
  | cons r rs ih =>
    have hb := balanced_request r p
    rcases hr : r.read p with ⟨e | a, q⟩ <;> simp only [answers, hr]
    · rw [leads_of_error hr] at hb
      refine ⟨Nat.le_trans hb (ih q).1, fun h => ?_⟩
      obtain ⟨a, ha⟩ := h _ List.mem_cons_self
      cases ha
    · rw [leads_of_ok hr] at hb
      refine ⟨hb ▸ (ih q).1, fun h => ?_⟩
      exact ((ih q).2 fun r hr => h r (List.mem_cons_of_mem _ hr)).trans hb

end Parser

namespace Parse

/-- Each rule, each list of arguments and each request leaves as many charges as it found if it reads,
and no fewer if it fails, whatever was read or has failed before. No charge is released that is not
held, and all arguments are read with the charges that the first one was read with. -/
theorem charges_balance :
    (∀ r n m, Balanced (Rule.reader n m r)) ∧ (∀ n, Balanced (listOf (expression n))) ∧
    (∀ r : Parser.Request, Balanced r.read) ∧
    (∀ (p : Parser) rs, p.depth ≤ (p.answers rs).2.depth ∧
      ((∀ r ∈ (p.answers rs).1, ∃ a, r = .ok a) → (p.answers rs).2.depth = p.depth)) ∧
    (∀ e n, ReleasesHeld e n) ∧
    ∀ n m s as s', separated (expression n) m s = (.ok as, s') →
      ReadsEach (expression n) s.depth s as s' := by
  refine ⟨balanced_reader, fun n s => ?_, balanced_request, Parser.answers_depth, releasesHeld, ?_⟩
  · exact charges_depth.listOf (balanced_reader .expression n 0)
  · intro n m s as s' h
    exact (balanced_reader .expression n 0).readsEach rfl h

/-- A failure keeps the charges that are held where it occurs. -/
example : ((Parser.ofText "1+(2*").answers [.expression, .expression]).2.depth = 5 := by
  with_unfolding_all rfl

end Parse

end QuantityCalculator
