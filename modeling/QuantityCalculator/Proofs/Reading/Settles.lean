import QuantityCalculator.Proofs.Action
import QuantityCalculator.Proofs.Grammar.Lookahead

/-!
Readers by what they come to: either they read, or the charges that they need at once are more than
the limit leaves.
-/

namespace QuantityCalculator.Parse

open Grammar

variable {α β : Type} {x : Parse α} {f : α → Parse β} {s s' s₁ : Parser} {a : α} {b : β} {e : Error}
  {j k : Nat}

lemma get_bind (f : Parser → Parse β) : (get >>= f) s = f s s := rfl

lemma modify_bind (g : Parser → Parser) (f : Unit → Parse β) : (modify g >>= f) s = f () (g s) := rfl

lemma current_bind (f : Token → Parse β) : (current >>= f) s = f s.current s := rfl

lemma currentKind_bind (f : Token.Kind → Parse β) :
    (currentKind >>= f) s = f (Grammar.next s.tokens) s := rfl

lemma advance_bind (f : Unit → Parse β) :
    (advance >>= f) s = f () { s with tokens := s.tokens.tail } := rfl

/-- With at most `k` charges at once `x` reads `a`. -/
def Settles (x : Parse α) (s : Parser) (k : Nat) (a : α) (s' : Parser) : Prop :=
  if s.depth + k ≤ limit then x s = (.ok a, s')
  else ∃ s', x s = (.error (.parse (.tooDeep limit)), s')

lemma Settles.ok (h : Settles x s k a s') (hk : s.depth + k ≤ limit) : x s = (.ok a, s') := by
  simpa only [Settles, if_pos hk] using h

lemma Settles.tooDeep (h : Settles x s k a s') (hk : limit < s.depth + k) :
    ∃ s', x s = (.error (.parse (.tooDeep limit)), s') := by
  simpa only [Settles, if_neg (Nat.not_le.mpr hk)] using h

lemma settles_of_ok (hd : s.depth ≤ limit) (h : x s = (.ok a, s')) : Settles x s 0 a s' := by
  rw [Settles, if_pos (by omega), h]

lemma Settles.bind (hx : Settles x s j a s₁) (hf : Settles (f a) s₁ k b s')
    (hd : s₁.depth = s.depth) : Settles (x >>= f) s (max j k) b s' := by
  by_cases hj : s.depth + j ≤ limit
  · have hb := bind_of_ok (f := f) (hx.ok hj)
    by_cases hk : s.depth + k ≤ limit
    · rw [Settles, if_pos (by omega), hb]
      exact hf.ok (by omega)
    · rw [Settles, if_neg (by omega), hb]
      exact hf.tooDeep (by omega)
  · obtain ⟨s₂, h⟩ := hx.tooDeep (by omega)
    rw [Settles, if_neg (by omega)]
    exact ⟨s₂, bind_of_error h⟩

lemma Settles.after (hx : x s = (.ok a, s₁)) (hf : Settles (f a) s₁ k b s')
    (hd : s₁.depth = s.depth) : Settles (x >>= f) s k b s' := by
  have hb := bind_of_ok (f := f) hx
  rw [Settles, hb, ← hd]
  exact hf

lemma Settles.map {g : α → β} (hx : Settles x s k a s') :
    Settles (x >>= fun a => pure (g a)) s k (g a) s' := by
  by_cases hk : s.depth + k ≤ limit
  · rw [Settles, if_pos hk]
    exact bind_of_ok (hx.ok hk)
  · obtain ⟨s₂, h⟩ := hx.tooDeep (by omega)
    rw [Settles, if_neg hk]
    exact ⟨s₂, bind_of_error h⟩

lemma settles_currentKind {f : Token.Kind → Parse β} :
    Settles (currentKind >>= f) s k b s' ↔ Settles (f (Grammar.next s.tokens)) s k b s' :=
  Iff.rfl

lemma settles_current {f : Token → Parse β} :
    Settles (current >>= f) s k b s' ↔ Settles (f s.current) s k b s' :=
  Iff.rfl

lemma settles_advance {f : Unit → Parse β} :
    Settles (advance >>= f) s k b s' ↔ Settles (f ()) { s with tokens := s.tokens.tail } k b s' :=
  Iff.rfl

lemma settles_get {f : Parser → Parse β} : Settles (get >>= f) s k b s' ↔ Settles (f s) s k b s' :=
  Iff.rfl

lemma settles_pure (hd : s.depth ≤ limit) : Settles (pure a) s 0 a s :=
  settles_of_ok hd rfl

lemma ofUnit_ok : ofUnit (.ok a) s = (.ok a, s) := rfl

lemma charge_of_lt (h : s.depth < limit) :
    charge s = (.ok (), { s with depth := s.depth + 1 }) := by
  have hn : ¬ limit < s.depth + 1 := by omega
  rw [charge, modify_bind, get_bind, if_neg hn]
  rfl

lemma charge_of_le (h : limit ≤ s.depth) :
    charge s = (.error (.parse (.tooDeep limit)), { s with depth := s.depth + 1 }) := by
  have hn : limit < s.depth + 1 := by omega
  rw [charge, modify_bind, get_bind, if_pos hn]
  rfl

lemma Settles.charged (h : s.depth < limit → Settles x { s with depth := s.depth + 1 } k a
    { s' with depth := s'.depth + 1 }) : Settles (charged x) s (k + 1) a s' := by
  by_cases hd : s.depth < limit
  · have hb := bind_of_ok (f := fun _ => x >>= fun a => release >>= fun _ => pure a)
      (charge_of_lt hd)
    by_cases hk : s.depth + (k + 1) ≤ limit
    · rw [Settles, if_pos hk]
      refine hb.trans ?_
      rw [bind_of_ok ((h hd).ok (by simp only; omega))]
      rfl
    · obtain ⟨s₂, hx⟩ := (h hd).tooDeep (by simp only; omega)
      rw [Settles, if_neg hk]
      exact ⟨s₂, hb.trans (bind_of_error hx)⟩
  · rw [Settles, if_neg (by omega)]
    exact ⟨_, bind_of_error (charge_of_le (by omega))⟩

lemma expect_cons {t : Token} {src : List Char} {ts : List Token} {d : Nat} {a : Token.Kind}
    (h : t.kind = a) : expect a ⟨src, t :: ts, d⟩ = (.ok t, ⟨src, ts, d⟩) := by
  rw [expect, current_bind]
  exact congrFun (if_pos h) _

end QuantityCalculator.Parse
