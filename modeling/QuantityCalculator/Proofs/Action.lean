import Mathlib.Tactic.Lemma
import QuantityCalculator.Error

/-!
Actions on a state that may fail, where a failure keeps the state that it occurred in.
-/

namespace QuantityCalculator

variable {σ α β : Type} {x : ExceptT Error (StateM σ) α} {f : α → ExceptT Error (StateM σ) β}
  {s s' : σ} {a a' : α} {b : β} {e : Error}

lemma bind_of_eq {x : StateM σ α} {f : α → StateM σ β} (h : x s = (a, s')) : (x >>= f) s = f a s' := by
  simp only [bind, StateT.bind, h]

lemma bind_of_ok (h : x s = (.ok a, s')) : (x >>= f) s = f a s' := by
  simp only [bind, ExceptT.bind, ExceptT.mk, StateT.bind, h, ExceptT.bindCont]

lemma bind_of_error (h : x s = (.error e, s')) : (x >>= f) s = (.error e, s') := by
  simp only [bind, ExceptT.bind, ExceptT.mk, StateT.bind, h, ExceptT.bindCont]
  rfl

lemma ok_of_bind (h : (x >>= f) s = (.ok b, s')) :
    ∃ a s₁, x s = (.ok a, s₁) ∧ f a s₁ = (.ok b, s') := by
  rcases hx : x s with ⟨e | a, s₁⟩
  · rw [bind_of_error hx] at h
    cases h
  · rw [bind_of_ok hx] at h
    exact ⟨a, s₁, rfl, h⟩

lemma eq_of_pure (h : (pure a : ExceptT Error (StateM σ) α) s = (.ok a', s')) : a = a' ∧ s = s' := by
  cases h
  exact ⟨rfl, rfl⟩

end QuantityCalculator
