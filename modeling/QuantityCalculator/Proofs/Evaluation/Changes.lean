import QuantityCalculator.Proofs.Evaluation.Effect
import QuantityCalculator.Proofs.Evaluation.Lookups

/-!
What a statement binds, as a change that can be made to any environment.
-/

namespace QuantityCalculator

open Eval

inductive Change where
  | nothing
  | define (name : String) (q : Quantity)
  | defineFunction (f : UserFunction)

def Change.apply : Change → Environment → Environment
  | nothing, env => env
  | define x q, env => env.define x q
  | defineFunction f, env => env.defineFunction f

variable {X F : String → Prop} {a b env : Environment} {p e e' : Phrase} {n n' : String}
  {c c' : Change} {k : Nat}

namespace Environment

lemma get?_define (env : Environment) (x y : String) (q : Quantity) :
    (env.define x q).get? y = if y = x then some q else env.get? y := by
  obtain ⟨frame, outer, he, hd⟩ := env.frames_define x q
  rw [get?_eq_findSome?_frames, get?_eq_findSome?_frames, he, hd, List.findSome?_cons,
    List.findSome?_cons, Bindings.get?_insert]
  by_cases hy : y = x
  · rw [if_pos hy, if_pos hy]
  · rw [if_neg hy, if_neg hy]

lemma get?_defineFunction (env : Environment) (f : UserFunction) (y : String) :
    (env.defineFunction f).get? y = env.get? y :=
  rfl

lemma function_defineFunction (env : Environment) (f : UserFunction) (g : String) :
    (env.defineFunction f).functions.get? g =
      if g = f.name then some (.user f) else env.functions.get? g :=
  Bindings.get?_insert env.functions f.name g (.user f)

lemma Agree.apply (h : a.Agree X F b) (c : Change) : (c.apply a).Agree X F (c.apply b) := by
  cases c with
  | nothing => exact h
  | define x q =>
    refine ⟨fun y hy => ?_, fun f hf => ?_⟩
    · rw [Change.apply, Change.apply, get?_define, get?_define, h.get? y hy]
    · rw [Change.apply, Change.apply, functions_define, functions_define, h.function f hf]
  | defineFunction f =>
    refine ⟨h.get?, fun g hg => ?_⟩
    rw [Change.apply, Change.apply, function_defineFunction, function_defineFunction, h.function g hg]

lemma Agree.refl (env : Environment) : env.Agree X F env :=
  ⟨fun _ _ => rfl, fun _ _ => rfl⟩

end Environment

/-- Binds nothing, or `n` to a value or to a function with the body `e`. -/
inductive Change.Binds (n : String) (e : Phrase) : Change → Prop
  | nothing : Binds n e .nothing
  | define {q} : Binds n e (.define n q)
  | defineFunction {xs} : Binds n e (.defineFunction ⟨n, xs, e⟩)

lemma Change.Binds.agree (hc : c.Binds n e) (env : Environment) :
    env.Agree (· ≠ n) (· ≠ n) (c.apply env) := by
  cases hc with
  | nothing => exact .refl env
  | define =>
    refine ⟨fun y hy => ?_, fun f _ => ?_⟩
    · rw [Change.apply, Environment.get?_define, if_neg hy]
    · rw [Change.apply, Environment.functions_define]
  | defineFunction =>
    refine ⟨fun _ _ => rfl, fun g hg => ?_⟩
    rw [Change.apply, Environment.function_defineFunction, if_neg hg]

lemma Change.Binds.commute (hc : c.Binds n e) (hc' : c'.Binds n' e') (hn : n ≠ n')
    (env : Environment) : (c'.apply (c.apply env)).Agree (fun _ => True) (fun _ => True)
      (c.apply (c'.apply env)) := by
  have swap {α : Type} {u v r : α} (y : String) : (if y = n' then v else if y = n then u else r) =
      if y = n then u else if y = n' then v else r := by
    by_cases hy : y = n
    · rw [if_pos hy, if_neg (hy ▸ hn), if_pos hy]
    · rw [if_neg hy, if_neg hy]
  cases hc <;> cases hc' <;> refine ⟨fun y _ => ?_, fun g _ => ?_⟩ <;>
    simp only [Change.apply, Environment.get?_define, Environment.get?_defineFunction,
      Environment.functions_define, Environment.function_defineFunction]
  · exact swap y
  · exact swap g

namespace Phrase

/-- The phrase defines `n` as the value of an expression, or as a function with that body. -/
inductive Binds : Phrase → String → Phrase → Prop
  | define {n : String} {e : Phrase} : Binds (.define n e) n e
  | defineFunction {n : String} {xs} {e : Phrase} : Binds (.defineFunction n xs e) n e

/-- In `env` the phrase fails, or comes to an outcome and makes a change. -/
def Does (p : Phrase) (k : Nat) (env : Environment) (r : Except Error (Outcome × Change)) : Prop :=
  p.run k env = match r with
    | .ok (o, c) => (.ok o, c.apply env)
    | .error e => (.error e, env)

lemma LooksUp.does (hp : p.LooksUp X F) (hb : a.BodiesLookUp X F) (k : Nat) :
    ∃ r, ∀ b, a.Agree X F b → p.Does k b r := by
  refine ⟨(p.run k a).1.map (·, .nothing), fun b h => ?_⟩
  obtain ⟨r, ha, hr⟩ := hp.same h hb k
  rw [ha]
  cases r <;> exact hr

lemma does_define {q : Except Error Quantity} (h : (e.run k >>= quantity) env = (q, env)) :
    (define n e).Does k env (q.map fun q => (.signal .nothing, .define n q)) := by
  refine (congrFun (run_define n e k) env).trans ?_
  rcases q with err | q
  · exact bind_of_error h
  · exact bind_of_ok h

lemma Binds.does (hp : p.Binds n e) (he : e.LooksUp X F) (hb : a.BodiesLookUp X F) (k : Nat) :
    ∃ r, (∀ b, a.Agree X F b → p.Does k b r) ∧
      ∀ o c, r = .ok (o, c) → o = .signal .nothing ∧ c.Binds n e := by
  cases hp with
  | define =>
    refine ⟨((e.run k >>= quantity) a).1.map fun q => (.signal .nothing, .define n q),
      fun b h => ?_, fun o c hr => ?_⟩
    · obtain ⟨r, ha, hr⟩ := (he.same h hb k).quantity
      rw [ha]
      exact does_define hr
    · rcases hq : ((e.run k >>= quantity) a).1 with err | q <;> rw [hq] at hr <;> cases hr
      exact ⟨rfl, .define⟩
  | @defineFunction n xs e =>
    refine ⟨.ok (.signal .nothing, .defineFunction ⟨n, xs, e⟩),
      fun b _ => run_defineFunction n xs e k, fun o c hr => ?_⟩
    cases hr
    exact ⟨rfl, .defineFunction⟩

lemma IsExpression.child {q : Phrase} (hp : p.IsExpression) (hq : q ∈ p.children) :
    q.IsExpression := by
  cases hp with
  | number | unit | access => cases hq
  | binary hl hr | measured hl hr =>
    obtain rfl | rfl := by simpa [children] using hq
    · exact hl
    · exact hr
  | negate hp | absolute hp | group hp =>
    obtain rfl : q = _ := by simpa [children] using hq
    exact hp
  | call has => exact has q hq

lemma IsExpression.of_occurs (hp : p.IsExpression) (h : e.Occurs p) : e.IsExpression := by
  induction h with
  | self => exact hp
  | inside hc _ ih => exact ih (hp.child hc)

lemma IsExpression.definesNothing (hp : p.IsExpression) : p.DefinesNothing := by
  constructor
  · rintro x ⟨body, h⟩
    cases hp.of_occurs h
  · rintro f ⟨xs, body, h⟩
    cases hp.of_occurs h

lemma DefinesNothing.looksUp (hp : p.DefinesNothing) (hx : ∀ x, (Phrase.access x).Occurs p → X x)
    (hf : ∀ f as, (Phrase.call f as).Occurs p → F f) : p.LooksUp X F :=
  ⟨hx, hf, hp.noVariable, hp.noFunction⟩

lemma IsStatement.does (hp : p.IsStatement) (hc : a.Checked) (k : Nat) :
    ∃ r, (∀ b, a.Agree (fun _ => True) (fun _ => True) b → p.Does k b r) ∧
      ∀ o c, r = .ok (o, c) → o.OfStatement := by
  have hlook {e : Phrase} (he : e.IsExpression) : e.LooksUp (fun _ => True) (fun _ => True) :=
    he.definesNothing.looksUp (fun _ _ => trivial) fun _ _ _ => trivial
  have hb : a.BodiesLookUp (fun _ => True) (fun _ => True) := fun name u hu => hlook (hc name u hu)
  have hd : ∃ r, ∀ b, a.Agree (fun _ => True) (fun _ => True) b → p.Does k b r := by
    cases hp with
    | expression hp => exact (hlook hp).does hb k
    | define hp =>
      obtain ⟨r, hr, -⟩ := Binds.define.does (hlook hp) hb k
      exact ⟨r, hr⟩
    | defineFunction hp =>
      obtain ⟨r, hr, -⟩ := Binds.defineFunction.does (hlook hp) hb k
      exact ⟨r, hr⟩
  obtain ⟨r, hr⟩ := hd
  refine ⟨r, hr, ?_⟩
  rintro o c rfl
  have ha : p.run k a = (.ok o, c.apply a) := hr a (.refl a)
  obtain ⟨r, env, he, ho⟩ := hp.run hc k
  rw [he] at ha
  cases ha
  exact ho.1

end Phrase

end QuantityCalculator
