import QuantityCalculator.Proofs.Evaluation.Scopes

/-!
How an evaluation ends that leaves the environment as it is.
-/

namespace QuantityCalculator.Eval

variable {α β : Type} {x : Eval α} {f : α → Eval β} {env : Environment} {E : Error → Prop}
  {P : α → Prop} {Q : β → Prop} {a : α}

/-- In `env`, which it leaves as it is, `x` comes to what satisfies `P` or to an error of `E`. -/
def Ends (E : Error → Prop) (x : Eval α) (env : Environment) (P : α → Prop) : Prop :=
  ∃ r, x env = (r, env) ∧ match r with
    | .ok a => P a
    | .error e => E e

lemma ends_pure (h : P a) : Ends E (pure a) env P :=
  ⟨.ok a, rfl, h⟩

lemma ends_throw {e : Error} (h : E e) : Ends E (throw e : Eval α) env P :=
  ⟨.error e, rfl, h⟩

lemma Ends.bind (hx : Ends E x env P) (hf : ∀ a, x env = (.ok a, env) → P a → Ends E (f a) env Q) :
    Ends E (x >>= f) env Q := by
  obtain ⟨e | a, hr, h⟩ := hx
  · exact ⟨.error e, bind_of_error hr, h⟩
  · obtain ⟨r, hr', h'⟩ := hf a hr h
    exact ⟨r, (bind_of_ok hr).trans hr', h'⟩

lemma Ends.map {g : α → β} (hx : Ends E x env P) (hg : ∀ a, P a → Q (g a)) :
    Ends E (do return g (← x)) env Q :=
  hx.bind fun a _ ha => ends_pure (hg a ha)

lemma Ends.mono {P' : α → Prop} (hx : Ends E x env P) (h : ∀ a, P a → P' a) : Ends E x env P' := by
  obtain ⟨e | a, hr, hp⟩ := hx
  · exact ⟨.error e, hr, hp⟩
  · exact ⟨.ok a, hr, h a hp⟩

lemma ends_ofResult {r : Except Error α} (h : ∀ e, r = .error e → E e) :
    Ends E (ofResult r) env (r = .ok ·) := by
  rcases r with e | a
  · exact ends_throw (h e rfl)
  · exact ends_pure rfl

lemma ends_ofUnit {r : Except UnitError α} (h : ∀ e, r = .error e → E (.unit e)) :
    Ends E (ofUnit r) env (r = .ok ·) := by
  rcases r with e | a
  · exact ends_throw (h e rfl)
  · exact ends_pure rfl

lemma Ends.within {frame : Frame} (hx : Ends E x (env.push frame) P) :
    Ends E (within frame x) env P := by
  obtain ⟨r, hr, h⟩ := hx
  refine ⟨r, ?_, h⟩
  rw [Eval.within, hr]
  rfl

lemma Ends.quantity {x : Eval Outcome} {P : Quantity → Prop}
    (hx : Ends E x env fun o => ∃ q, o = .value q ∧ P q) : Ends E (x >>= quantity) env P := by
  refine hx.bind ?_
  rintro _ - ⟨q, rfl, hq⟩
  exact ends_pure hq

lemma ends_access {name : String} (h : E (.undefinedName name)) :
    Ends E (access name) env (env.get? name = some ·) := by
  refine ⟨env.lookupVariable name, ofResult_run _ env, ?_⟩
  rw [Environment.lookupVariable]
  cases env.get? name with
  | none => exact h
  | some q => rfl

lemma ends_callee {name : String} (h : E (.undefinedName name)) :
    Ends E (callee name) env (env.functions.get? name = some ·) := by
  refine ⟨env.lookupFunction name, ofResult_run _ env, ?_⟩
  rw [Environment.lookupFunction]
  cases env.functions.get? name with
  | none => exact h
  | some f => rfl

end QuantityCalculator.Eval
