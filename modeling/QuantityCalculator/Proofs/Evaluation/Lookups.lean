import QuantityCalculator.Proofs.Evaluation.Scopes

/-!
What an evaluation looks up. Environments that agree on it are the same to a phrase without definitions.
-/

namespace QuantityCalculator

open Eval

namespace Environment

/-- The same variables of `X`, wherever they stand, and the same functions of `F`. -/
structure Agree (X F : String → Prop) (a b : Environment) : Prop where
  get? : ∀ x, X x → a.get? x = b.get? x
  function : ∀ f, F f → a.functions.get? f = b.functions.get? f

end Environment

namespace Phrase

/-- Defines nothing, and names variables of `X` and functions of `F` alone. -/
structure LooksUp (X F : String → Prop) (p : Phrase) : Prop where
  access : ∀ x, (access x).Occurs p → X x
  call : ∀ f as, (call f as).Occurs p → F f
  define : ∀ x, ¬ p.DefinesVariable x
  defineFunction : ∀ f, ¬ p.DefinesFunction f

end Phrase

def Environment.BodiesLookUp (X F : String → Prop) (env : Environment) : Prop :=
  ∀ name u, env.functions.get? name = some (.user u) → u.body.LooksUp X F

variable {X F : String → Prop} {a b : Environment} {p c : Phrase}

lemma Phrase.LooksUp.child (h : p.LooksUp X F) (hc : c ∈ p.children) : c.LooksUp X F :=
  ⟨fun x hx => h.access x (.inside hc hx), fun f as hf => h.call f as (.inside hc hf),
    fun x hx => h.define x (hx.inside hc), fun f hf => h.defineFunction f (hf.inside hc)⟩

namespace Environment

lemma get?_push (env : Environment) (frame : Frame) (x : String) :
    (env.push frame).get? x = (Bindings.get? frame x).or (env.get? x) := by
  rw [Environment.get?, push, List.findSome?_cons]
  cases Bindings.get? frame x <;> rfl

lemma Agree.push (h : a.Agree X F b) (frame : Frame) : (a.push frame).Agree X F (b.push frame) := by
  refine ⟨fun x hx => ?_, h.function⟩
  rw [get?_push, get?_push, h.get? x hx]

lemma Agree.lookupVariable (h : a.Agree X F b) {x : String} (hx : X x) :
    a.lookupVariable x = b.lookupVariable x := by
  rw [Environment.lookupVariable, Environment.lookupVariable, h.get? x hx]

lemma Agree.lookupFunction (h : a.Agree X F b) {f : String} (hf : F f) :
    a.lookupFunction f = b.lookupFunction f := by
  rw [Environment.lookupFunction, Environment.lookupFunction, h.function f hf]

end Environment

namespace Eval

variable {α β : Type} {x : Eval α} {f : α → Eval β}

/-- In `a` and in `b`, which it leaves as they are, `x` comes to the same. -/
def Same (a b : Environment) (x : Eval α) : Prop :=
  ∃ r, x a = (r, a) ∧ x b = (r, b)

lemma same_pure (v : α) : Same a b (pure v) :=
  ⟨.ok v, rfl, rfl⟩

lemma same_throw (e : Error) : Same a b (throw e : Eval α) :=
  ⟨.error e, rfl, rfl⟩

lemma Same.bind (hx : Same a b x) (hf : ∀ v, x a = (.ok v, a) → Same a b (f v)) :
    Same a b (x >>= f) := by
  obtain ⟨e | v, ha, hb⟩ := hx
  · exact ⟨.error e, bind_of_error ha, bind_of_error hb⟩
  · obtain ⟨r, ha', hb'⟩ := hf v ha
    exact ⟨r, (bind_of_ok ha).trans ha', (bind_of_ok hb).trans hb'⟩

lemma Same.map {g : α → β} (hx : Same a b x) : Same a b (do return g (← x)) :=
  hx.bind fun v _ => same_pure (g v)

lemma same_ofResult (r : Except Error α) : Same a b (ofResult r) := by
  cases r with
  | error e => exact same_throw e
  | ok v => exact same_pure v

lemma same_ofUnit (r : Except UnitError α) : Same a b (ofUnit r) := by
  cases r with
  | error e => exact same_throw (.unit e)
  | ok v => exact same_pure v

lemma Same.quantity {x : Eval Outcome} (hx : Same a b x) : Same a b (x >>= quantity) := by
  refine hx.bind fun o _ => ?_
  cases o with
  | value q => exact same_pure q
  | signal s => exact same_throw _

lemma same_access (h : a.Agree X F b) {x : String} (hx : X x) : Same a b (access x) := by
  refine ⟨a.lookupVariable x, ofResult_run _ a, ?_⟩
  rw [h.lookupVariable hx]
  exact ofResult_run _ b

lemma same_callee (h : a.Agree X F b) {f : String} (hf : F f) : Same a b (callee f) := by
  refine ⟨a.lookupFunction f, ofResult_run _ a, ?_⟩
  rw [h.lookupFunction hf]
  exact ofResult_run _ b

lemma Same.within {frame : Frame} (hx : Same (a.push frame) (b.push frame) x) :
    Same a b (within frame x) := by
  obtain ⟨r, ha, hb⟩ := hx
  refine ⟨r, ?_, ?_⟩
  · rw [Eval.within, ha]
    rfl
  · rw [Eval.within, hb]
    rfl

/-- Bodies that look up what the environments agree on come to the same. -/
def Caller.Same (X F : String → Prop) (caller : Caller) : Prop :=
  ∀ {u as a b}, u.body.LooksUp X F → a.Agree X F b → a.BodiesLookUp X F →
    Eval.Same a b (caller u as)

end Eval

namespace Phrase

variable {caller : Caller} {as : List Phrase}

lemma same_quantities (h : ∀ p ∈ as, Same a b (p.evaluateWith caller)) :
    Same a b (quantitiesWith caller as) := by
  induction as with
  | nil => exact same_pure []
  | cons p as ih =>
    refine (h p List.mem_cons_self).quantity.bind fun q _ => ?_
    exact (ih fun c hc => h c (List.mem_cons_of_mem p hc)).map

lemma LooksUp.sameWith (hc : caller.Same X F) (h : a.Agree X F b) (hb : a.BodiesLookUp X F)
    (hp : p.LooksUp X F) : Same a b (p.evaluateWith caller) := by
  induction p using Phrase.induction with
  | number => exact (same_ofResult _).map
  | unit => exact (same_ofUnit _).map
  | render | newline | exit | quit => exact same_pure _
  | binary o l r ihl ihr =>
    refine (ihl (hp.child (by simp [children]))).quantity.bind fun q _ => ?_
    exact (ihr (hp.child (by simp [children]))).quantity.bind fun q' _ => (same_ofUnit _).map
  | measured v u ihv ihu =>
    refine (ihv (hp.child (by simp [children]))).quantity.bind fun q _ => ?_
    exact (ihu (hp.child (by simp [children]))).quantity.map
  | negate p ih | absolute p ih | group p ih =>
    exact (ih (hp.child (by simp [children]))).quantity.map
  | evaluate p ih | exclude p ih => exact ih (hp.child (by simp [children]))
  | define x p => exact absurd ⟨p, .self⟩ (hp.define x)
  | defineFunction f xs p => exact absurd ⟨xs, p, .self⟩ (hp.defineFunction f)
  | access x => exact (same_access h (hp.access x .self)).map
  | call f as ih =>
    refine (same_callee h (hp.call f as .self)).bind fun g hg => ?_
    refine (same_quantities fun p hm => ih p hm (hp.child hm)).bind fun vs _ => Same.map ?_
    cases g with
    | builtin g => exact same_ofResult _
    | user u =>
      -- What is called stands in the table, so its body looks up no more than all bodies do.
      have hu : a.lookupFunction f = .ok (.user u) := by
        have hr : callee f a = (a.lookupFunction f, a) := ofResult_run _ a
        exact congrArg Prod.fst (hr.symm.trans hg)
      rw [Environment.lookupFunction] at hu
      split at hu
      · next g hf =>
        cases hu
        exact hc (hb f u hf) h hb
      · contradiction

lemma same_enter {run : Phrase → Eval Outcome}
    (hr : ∀ {p a b}, p.LooksUp X F → a.Agree X F b → a.BodiesLookUp X F → Same a b (run p)) :
    Caller.Same X F (enter run) := by
  intro u as a b hu h hb
  rw [enter]
  split
  · exact (hr hu (h.push _) (by exact hb)).quantity.within
  · exact same_throw _

lemma LooksUp.same (hp : p.LooksUp X F) (h : a.Agree X F b) (hb : a.BodiesLookUp X F) (n : Nat) :
    Same a b (p.run n) := by
  induction n generalizing p a b with
  | zero => exact hp.sameWith (fun _ _ _ => same_throw _) h hb
  | succ n ih => exact hp.sameWith (same_enter fun hp h hb => ih hp h hb) h hb

end Phrase

end QuantityCalculator
