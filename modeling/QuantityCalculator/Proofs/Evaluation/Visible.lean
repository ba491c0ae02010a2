import QuantityCalculator.Proofs.Evaluation.Changes
import QuantityCalculator.Proofs.Evaluation.Depth

/-!
What an evaluation sees. Main statement: without definitions, environments with the same functions where
the same values are found for all variables that are named cannot be told apart, in whatever frames these
stand.
-/

namespace QuantityCalculator

open Eval

namespace Environment

def BodiesDefineNothing (env : Environment) : Prop :=
  ∀ name u, env.functions.get? name = some (.user u) → u.body.DefinesNothing

/-- The phrase, or the body of a function that it might call, names the variable. -/
def Names (env : Environment) (p : Phrase) (x : String) : Prop :=
  (Phrase.access x).Occurs p ∨
    ∃ name u, env.functions.get? name = some (.user u) ∧ (Phrase.access x).Occurs u.body

/-- The same variables, in a single frame. -/
def merged (env : Environment) : Environment where
  globals := env.frames.flatten.foldr (fun e b => b.insert e.1 e.2) []
  functions := env.functions

/-- The environment with these frames before its own. -/
def under (env : Environment) (frames : List Frame) : Environment :=
  frames.foldr (fun frame env => env.push frame) env

end Environment

variable {X : String → Prop} {a b : Environment} {p : Phrase} {x : String} {q : Quantity}
  {frames : List Frame}

lemma Bindings.get?_foldr_insert {α : Type} (entries : List (String × α)) (x : String) :
    Bindings.get? (entries.foldr (fun e b => Bindings.insert b e.1 e.2) []) x =
      Bindings.get? entries x := by
  induction entries with
  | nil => rfl
  | cons e entries ih => rw [List.foldr_cons, Bindings.get?_insert, ih, Bindings.get?_cons]

lemma Bindings.get?_append {α : Type} (b b' : Bindings α) (x : String) :
    Bindings.get? (b ++ b') x = (Bindings.get? b x).or (Bindings.get? b' x) :=
  List.lookup_append

namespace Environment

lemma toOption_lookupVariable (env : Environment) (x : String) :
    (env.lookupVariable x).toOption = env.get? x := by
  rw [lookupVariable]
  cases env.get? x <;> rfl

lemma agree_of_lookups (hf : a.functions = b.functions)
    (hx : ∀ x, X x → a.get? x = b.get? x) : a.Agree X (fun _ => True) b :=
  ⟨hx, fun f _ => by rw [hf]⟩

lemma get?_merged (env : Environment) (x : String) : env.merged.get? x = env.get? x := by
  have hf (fs : List Frame) :
      Bindings.get? fs.flatten x = fs.findSome? (Bindings.get? · x) := by
    induction fs with
    | nil => rfl
    | cons f fs ih =>
      rw [List.flatten_cons, Bindings.get?_append, ih, List.findSome?_cons]
      cases Bindings.get? f x <;> rfl
  rw [get?_eq_findSome?_frames env, ← hf, ← Bindings.get?_foldr_insert]
  rfl

lemma functions_under (env : Environment) (frames : List Frame) :
    (env.under frames).functions = env.functions := by
  induction frames with
  | nil => rfl
  | cons f fs ih => exact ih

lemma get?_under (env : Environment) (frames : List Frame) (x : String) :
    (env.under frames).get? x = (frames.findSome? (Bindings.get? · x)).or (env.get? x) := by
  induction frames with
  | nil => rfl
  | cons f fs ih =>
    have hp : env.under (f :: fs) = (env.under fs).push f := rfl
    rw [hp, get?_push, ih, List.findSome?_cons]
    cases Bindings.get? f x <;> rfl

lemma get?_under_define (hx : ∃ frame ∈ frames, (Bindings.get? frame x).isSome) (y : String) :
    ((a.define x q).under frames).get? y = (a.under frames).get? y := by
  rw [get?_under, get?_under, get?_define]
  by_cases hy : y = x
  · have hs : (frames.findSome? (Bindings.get? · y)).isSome := by
      rw [List.findSome?_isSome_iff, hy]
      exact hx
    obtain ⟨v, hv⟩ := Option.isSome_iff_exists.mp hs
    rw [hv, Option.some_or, Option.some_or]
  · rw [if_neg hy]

end Environment

namespace Phrase

lemma DefinesNothing.same (hp : p.DefinesNothing) (ha : a.BodiesDefineNothing)
    (hf : a.functions = b.functions) (hx : ∀ x, a.Names p x → a.get? x = b.get? x) (n : Nat) :
    Same a b (p.run n) := by
  have hb : a.BodiesLookUp (a.Names p) fun _ => True :=
    fun name u hu => (ha name u hu).looksUp (fun x h => .inr ⟨name, u, hu, h⟩) fun _ _ _ => trivial
  have hl : p.LooksUp (a.Names p) fun _ => True := hp.looksUp (fun x => .inl) fun _ _ _ => trivial
  exact hl.same (Environment.agree_of_lookups hf hx) hb n

lemma DefinesNothing.result_eq (hp : p.DefinesNothing) (ha : a.BodiesDefineNothing)
    (hf : a.functions = b.functions) (hx : ∀ x, a.Names p x → a.get? x = b.get? x) (n : Nat) :
    (p.run n b).1 = (p.run n a).1 := by
  obtain ⟨r, hr, hr'⟩ := hp.same ha hf hx n
  rw [hr, hr']

/-- Without definitions, in environments with the same functions where lookups of all variables that are
named come to the same, the phrase comes to the same, or in neither to an end. So it makes no difference
in which frames bindings stand, what a variable that is not named is bound to, or one that a frame
further in hides. -/
theorem run_visible (hp : p.DefinesNothing) (ha : a.BodiesDefineNothing)
    (hf : a.functions = b.functions)
    (hx : ∀ x, a.Names p x → a.lookupVariable x = b.lookupVariable x) :
    (∀ n, ∃ r, p.run n a = (r, a) ∧ p.run n b = (r, b)) ∧
    (p.Terminates a ↔ p.Terminates b) ∧
    (∀ n, (p.run n a.merged).1 = (p.run n a).1) ∧
    (∀ x q n, ¬ a.Names p x → (p.run n (a.define x q)).1 = (p.run n a).1) ∧
    ∀ frames x q n, (∃ frame ∈ frames, (Bindings.get? frame x).isSome) →
      (p.run n ((a.define x q).under frames)).1 = (p.run n (a.under frames)).1 := by
  have hs := hp.same ha hf fun x h => by
    rw [← a.toOption_lookupVariable, hx x h, b.toOption_lookupVariable]
  refine ⟨hs, ?_, fun n => ?_, fun x q n hn => ?_, fun frames x q n hx => ?_⟩
  · refine exists_congr fun n => not_congr ?_
    obtain ⟨r, hr, hr'⟩ := hs n
    rw [hr, hr']
  · have hm : a.functions = a.merged.functions := rfl
    exact hp.result_eq ha hm (fun x _ => (a.get?_merged x).symm) n
  · refine hp.result_eq ha (a.functions_define x q).symm (fun y hy => ?_) n
    have hn : y ≠ x := fun h => hn (h ▸ hy)
    rw [Environment.get?_define, if_neg hn]
  · have hu : (a.under frames).BodiesDefineNothing := fun name u h =>
      ha name u (a.functions_under frames ▸ h)
    refine hp.result_eq hu ?_ (fun y _ => (Environment.get?_under_define hx y).symm) n
    rw [Environment.functions_under, Environment.functions_under, Environment.functions_define]

/-- `f(y)` with `f(x) = x + g`, where `g` is bound in a frame of its own and again behind that. -/
theorem call_does_not_see_hidden_binding :
    let body := binary .add (access "x") (access "g")
    let table := [("f", Function.user ⟨"f", ["x"], body⟩)]
    let p := call "f" [access "y"]
    let a : Environment := ⟨[], [("y", .dimensionless 3), ("g", .dimensionless 2)], table⟩
    let b : Environment :=
      ⟨[[("g", .dimensionless 2)]], [("g", .dimensionless 7), ("y", .dimensionless 3)], table⟩
    p.DefinesNothing ∧ a.BodiesDefineNothing ∧
      (∀ x, a.Names p x → a.lookupVariable x = b.lookupVariable x) ∧
      (p.run 1 a).1 = .ok (.value (.dimensionless (3 + 2))) ∧
      (p.run 1 b).1 = .ok (.value (.dimensionless (3 + 2))) ∧ p.Terminates b := by
  intro body table p a b
  have hp : p.IsExpression := .call (List.forall_mem_singleton.mpr .access)
  have hbody (name : String) (u : UserFunction) (hu : a.functions.get? name = some (.user u)) :
      u.body = body := by
    rw [Bindings.get?_cons] at hu
    split at hu
    · cases hu
      rfl
    · contradiction
  have ha : a.BodiesDefineNothing := by
    intro name u hu
    rw [hbody name u hu]
    exact (IsExpression.binary .access .access).definesNothing
  have hx (x : String) (hx : a.Names p x) : a.lookupVariable x = b.lookupVariable x := by
    have hx : x = "y" ∨ x = "x" ∨ x = "g" := by
      obtain h | ⟨name, u, hu, h⟩ := hx
      · obtain h | h := occurs_node rfl rfl h
        · contradiction
        · exact .inl (access.inj h)
      · rw [hbody name u hu] at h
        obtain h | ⟨c, hc, h⟩ := occurs_iff.mp h
        · contradiction
        · obtain rfl | rfl : c = access "x" ∨ c = access "g" := by simpa [body, children] using hc
          · exact .inr (.inl (access.inj (occurs_leaf rfl h)))
          · exact .inr (.inr (access.inj (occurs_leaf rfl h)))
    obtain rfl | rfl | rfl := hx <;> rfl
  have hf : a.functions = b.functions := rfl
  obtain ⟨hs, ht, -⟩ := run_visible hp.definesNothing ha hf hx
  have hr : p.run 1 a = (.ok (.value (.dimensionless (3 + 2))), a) := by with_unfolding_all rfl
  obtain ⟨r, hra, hrb⟩ := hs 1
  cases hr.symm.trans hra
  refine ⟨hp.definesNothing, ha, hx, ?_, ?_, ht.mp ⟨1, ?_⟩⟩
  · rw [hr]
  · rw [hrb]
  · simp [hr]

end Phrase

end QuantityCalculator
