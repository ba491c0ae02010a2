import QuantityCalculator.Evaluation.Evaluate
import QuantityCalculator.Proofs.Action
import QuantityCalculator.Proofs.Subphrase

/-!
Scopes: an evaluation leaves the frames as they were, but for the definitions that occur in the phrase
and go to the innermost one, and the functions but for those whose definitions occur in the phrase or
in a function.
-/

namespace QuantityCalculator

open Eval

namespace Environment

variable {X Y F : String → Prop} {env env' env'' : Environment} {frame : Frame}

def BodiesDefine (F : String → Prop) (env : Environment) : Prop :=
  ∀ name f, env.functions.get? name = some (.user f) → ∀ g, f.body.DefinesFunction g → F g

/-- Definitions, one after the other, of variables of `X` in the innermost frame, and of functions of
`F` with bodies that define functions of `F` alone. -/
inductive Writes (X F : String → Prop) (env : Environment) : Environment → Prop
  | refl : Writes X F env env
  | define {env' x q} : Writes X F env env' → X x → Writes X F env (env'.define x q)
  | defineFunction {env' f} : Writes X F env env' → F f.name →
      (∀ g, f.body.DefinesFunction g → F g) → Writes X F env (env'.defineFunction f)

lemma Writes.trans (h : Writes X F env env') (h' : Writes X F env' env'') : Writes X F env env'' := by
  induction h' with
  | refl => exact h
  | define _ hx ih => exact ih.define hx
  | defineFunction _ hf hb ih => exact ih.defineFunction hf hb

lemma get?_builtins_ne (name : String) (f : UserFunction) :
    builtins.get? name ≠ some (.user f) := by
  rw [builtins]
  induction Builtin.all with
  | nil => nofun
  | cons b bs ih =>
    rw [List.map_cons, Bindings.get?_cons]
    split
    · nofun
    · exact ih

lemma functions_define (env : Environment) (x : String) (q : Quantity) :
    (env.define x q).functions = env.functions := by
  rw [define]
  split <;> rfl

lemma frames_define (env : Environment) (x : String) (q : Quantity) :
    ∃ frame outer, env.frames = frame :: outer ∧
      (env.define x q).frames = Bindings.insert frame x q :: outer := by
  rw [define]
  cases hl : env.locals with
  | nil => exact ⟨env.globals, [], by simp [frames, hl], by simp [frames]⟩
  | cons frame locals =>
    exact ⟨frame, locals ++ [env.globals], by simp [frames, hl], by simp [frames]⟩

lemma Writes.bodiesDefine (h : Writes X F env env') (hb : env.BodiesDefine F) :
    env'.BodiesDefine F := by
  induction h with
  | refl => exact hb
  | @define env' x q _ _ ih =>
    rw [BodiesDefine, functions_define]
    exact ih
  | @defineFunction env' f _ _ hf ih =>
    intro name u hu
    rw [Environment.defineFunction, Bindings.get?_insert] at hu
    split at hu
    · obtain rfl : f = u := by simpa using hu
      exact hf
    · exact ih name u hu

/-- What is written in an inner frame is gone with it. -/
lemma Writes.pop (h : Writes X F (env.push frame) env') :
    ∃ frame' env₁, env' = env₁.push frame' ∧ Writes Y F env env₁ := by
  induction h with
  | refl => exact ⟨frame, env, rfl, .refl⟩
  | @define _ x q _ _ ih =>
    obtain ⟨frame', env₁, rfl, h⟩ := ih
    exact ⟨Bindings.insert frame' x q, env₁, rfl, h⟩
  | @defineFunction _ f _ hn hb ih =>
    obtain ⟨frame', env₁, rfl, h⟩ := ih
    exact ⟨frame', env₁.defineFunction f, rfl, h.defineFunction hn hb⟩

lemma Writes.frames (h : Writes X F env env') :
    ∃ frame frame' outer, env.frames = frame :: outer ∧ env'.frames = frame' :: outer ∧
      ∀ x, ¬ X x → Bindings.get? frame' x = Bindings.get? frame x := by
  induction h with
  | refl =>
    have hn : env.frames ≠ [] := by simp [Environment.frames]
    obtain ⟨frame, outer, h⟩ := List.exists_cons_of_ne_nil hn
    exact ⟨frame, frame, outer, h, h, fun _ _ => rfl⟩
  | @define env' x q _ hx ih =>
    obtain ⟨frame, frame', outer, he, he', hf⟩ := ih
    obtain ⟨frame'', outer', hd, hd'⟩ := env'.frames_define x q
    obtain ⟨rfl, rfl⟩ := List.cons.inj (he'.symm.trans hd)
    refine ⟨frame, _, outer, he, hd', fun y hy => ?_⟩
    have hn : y ≠ x := fun h => hy (h ▸ hx)
    rw [Bindings.get?_insert, if_neg hn, hf y hy]
  | defineFunction _ _ _ ih => exact ih

lemma Writes.functions (h : Writes X F env env') {f : String} (hf : ¬ F f) :
    env'.functions.get? f = env.functions.get? f := by
  induction h with
  | refl => rfl
  | define _ _ ih => rw [functions_define, ih]
  | defineFunction _ hg _ ih =>
    have hn : f ≠ _ := fun h => hf (h ▸ hg)
    rw [Environment.defineFunction, Bindings.get?_insert, if_neg hn, ih]

lemma Writes.eq_of_nothing (h : Writes X F env env') (hx : ∀ x, ¬ X x) (hf : ∀ f, ¬ F f) :
    env' = env := by
  cases h with
  | refl => rfl
  | define _ h => exact absurd h (hx _)
  | defineFunction _ h => exact absurd h (hf _)

end Environment

namespace Eval

variable {α β : Type} {X Y F : String → Prop} {x : Eval α} {f : α → Eval β}

def Writes (X F : String → Prop) (x : Eval α) : Prop :=
  ∀ env : Environment, env.BodiesDefine F → env.Writes X F (x env).2

lemma writes_pure (a : α) : Writes X F (pure a) :=
  fun _ _ => .refl

lemma writes_throw (e : Error) : Writes X F (throw e : Eval α) :=
  fun _ _ => .refl

lemma Writes.bind (hx : Writes X F x) (hf : ∀ a, Writes X F (f a)) : Writes X F (x >>= f) := by
  intro env hb
  have h := hx env hb
  rcases hr : x env with ⟨e | a, env'⟩ <;> rw [hr] at h
  · rw [bind_of_error hr]
    exact h
  · rw [bind_of_ok hr]
    exact h.trans (hf a env' (h.bodiesDefine hb))

lemma ofResult_run (r : Except Error α) (env : Environment) : ofResult r env = (r, env) := by
  cases r <;> rfl

lemma writes_ofResult (r : Except Error α) : Writes X F (ofResult r) := by
  intro env _
  rw [ofResult_run]
  exact .refl

lemma writes_ofUnit (r : Except UnitError α) : Writes X F (ofUnit r) := by
  cases r with
  | error e => exact writes_throw _
  | ok a => exact writes_pure a

lemma Writes.quantity {x : Eval Outcome} (h : Writes X F x) : Writes X F (x >>= quantity) := by
  refine h.bind fun o => ?_
  cases o with
  | value q => exact writes_pure q
  | signal s => exact writes_throw _

lemma writes_access (name : String) : Writes X F (access name) :=
  fun env hb => writes_ofResult (env.lookupVariable name) env hb

/-- A function that is called stands in the environment, so what its body defines is in `F`. -/
lemma writes_callee {f : Function → Eval β} (name : String)
    (hf : ∀ g, (∀ u, g = .user u → ∀ n, u.body.DefinesFunction n → F n) → Writes X F (f g)) :
    Writes X F (callee name >>= f) := by
  intro env hb
  have hc : callee name env = (env.lookupFunction name, env) := ofResult_run _ env
  rw [Environment.lookupFunction] at hc
  split at hc
  · next g hg =>
    rw [bind_of_ok hc]
    exact hf g (fun u hu => hb name u (hu ▸ hg)) env hb
  · rw [bind_of_error hc]
    exact .refl

lemma writes_define {name : String} (hx : X name) (q : Quantity) :
    Writes X F (modify (·.define name q) : Eval Unit) :=
  fun _ _ => .define .refl hx

lemma writes_defineFunction {u : UserFunction} (hn : F u.name)
    (hb : ∀ g, u.body.DefinesFunction g → F g) :
    Writes X F (modify (·.defineFunction u) : Eval Unit) :=
  fun _ _ => .defineFunction .refl hn hb

lemma Writes.within (h : Writes Y F x) (frame : Frame) : Writes X F (Eval.within frame x) := by
  intro env hb
  obtain ⟨frame', env₁, he, hw⟩ := (h (env.push frame) hb).pop (Y := X)
  have hp : (Eval.within frame x env).2 = env₁ := by
    change ((x (env.push frame)).2).pop = env₁
    rw [he]
    rfl
  rwa [hp]

def Caller.Writes (F : String → Prop) (caller : Caller) : Prop :=
  ∀ {X f as}, (∀ g, f.body.DefinesFunction g → F g) → Eval.Writes X F (caller f as)

end Eval

namespace Phrase

variable {X F : String → Prop} {caller : Caller} {p : Phrase} {as : List Phrase}

lemma writes_quantities (h : ∀ a ∈ as, Writes X F (a.evaluateWith caller)) :
    Writes X F (quantitiesWith caller as) := by
  induction as with
  | nil => exact writes_pure []
  | cons a as ih =>
    refine (h a List.mem_cons_self).quantity.bind fun q => ?_
    exact (ih fun b hb => h b (List.mem_cons_of_mem a hb)).bind fun _ => writes_pure _

lemma writes_evaluateWith (hc : caller.Writes F) (hx : ∀ x, p.DefinesVariable x → X x)
    (hf : ∀ f, p.DefinesFunction f → F f) : Writes X F (p.evaluateWith caller) := by
  have child {P : Prop} {p q : Phrase} (hx : ∀ x, p.DefinesVariable x → X x)
      (hf : ∀ f, p.DefinesFunction f → F f) (hq : q ∈ p.children)
      (ih : (∀ x, q.DefinesVariable x → X x) → (∀ f, q.DefinesFunction f → F f) → P) : P :=
    ih (fun x h => hx x (h.inside hq)) fun f h => hf f (h.inside hq)
  induction p using Phrase.induction with
  | number => exact (writes_ofResult _).bind fun _ => writes_pure _
  | unit => exact (writes_ofUnit _).bind fun _ => writes_pure _
  | access x => exact (writes_access x).bind fun _ => writes_pure _
  | render | newline | exit | quit => exact writes_pure _
  | binary o l r ihl ihr =>
    refine (child hx hf (by simp [children]) ihl).quantity.bind fun a => ?_
    refine (child hx hf (by simp [children]) ihr).quantity.bind fun b => ?_
    exact (writes_ofUnit _).bind fun _ => writes_pure _
  | measured v u ihv ihu =>
    refine (child hx hf (by simp [children]) ihv).quantity.bind fun a => ?_
    exact (child hx hf (by simp [children]) ihu).quantity.bind fun b => writes_pure _
  | negate p ih | absolute p ih | group p ih =>
    exact (child hx hf (by simp [children]) ih).quantity.bind fun _ => writes_pure _
  | evaluate p ih | exclude p ih => exact child hx hf (by simp [children]) ih
  | define x p ih =>
    refine (child hx hf (by simp [children]) ih).quantity.bind fun q => ?_
    exact (writes_define (hx x ⟨p, .self⟩) q).bind fun _ => writes_pure _
  | defineFunction f xs p _ =>
    have hb : ∀ g, p.DefinesFunction g → F g := fun g h => hf g (h.inside (by simp [children]))
    exact (writes_defineFunction (u := ⟨f, xs, p⟩) (hf f ⟨xs, p, .self⟩) hb).bind fun _ => writes_pure _
  | call f as ih =>
    refine writes_callee f fun g hg => ?_
    refine (writes_quantities fun a ha => child hx hf ha (ih a ha)).bind fun vs => ?_
    cases g with
    | builtin b => exact (writes_ofResult _).bind fun _ => writes_pure _
    | user u => exact (hc (hg u rfl)).bind fun _ => writes_pure _

/-- Whatever a body defines as a variable is in the frame of the call. -/
lemma writes_enter {run : Phrase → Eval Outcome}
    (hr : ∀ {p}, (∀ f, p.DefinesFunction f → F f) → Writes p.DefinesVariable F (run p)) :
    Caller.Writes F (enter run) := by
  intro X f as hf
  rw [enter]
  split
  · exact (hr hf).quantity.within _
  · exact writes_throw _

lemma writes_run (n : Nat) (hf : ∀ f, p.DefinesFunction f → F f) :
    Writes p.DefinesVariable F (p.run n) := by
  induction n generalizing p with
  | zero => exact writes_evaluateWith (fun _ => writes_throw _) (fun _ => id) hf
  | succ n ih => exact writes_evaluateWith (writes_enter fun hf => ih hf) (fun _ => id) hf

/-- Whatever an evaluation comes to, it leaves as many frames, all but the innermost as they were. In
that one nothing differs but variables whose definitions occur in the phrase itself, and of the
functions none but those whose definitions occur in the phrase or in the body of a function. So without
definitions the environment is the same. -/
theorem run_respects_scopes (p : Phrase) (env : Environment) (n : Nat) :
    (p.run n env).2.depth = env.depth ∧
    (∃ frame frame' outer, env.frames = frame :: outer ∧ (p.run n env).2.frames = frame' :: outer ∧
      ∀ x, ¬ p.DefinesVariable x → Bindings.get? frame' x = Bindings.get? frame x) ∧
    (∀ f, ¬ p.DefinesFunction f →
      (∀ name u, env.functions.get? name = some (.user u) → ¬ u.body.DefinesFunction f) →
      (p.run n env).2.functions.get? f = env.functions.get? f) ∧
    ((∀ x, ¬ p.DefinesVariable x) → (∀ f, ¬ p.DefinesFunction f) →
      (∀ name u, env.functions.get? name = some (.user u) → ∀ f, ¬ u.body.DefinesFunction f) →
      (p.run n env).2 = env) := by
  let F (f : String) : Prop := p.DefinesFunction f ∨
    ∃ name u, env.functions.get? name = some (.user u) ∧ u.body.DefinesFunction f
  have hw : env.Writes p.DefinesVariable F (p.run n env).2 :=
    writes_run n (fun f h => .inl h) env fun name u hu f hf => .inr ⟨name, u, hu, hf⟩
  obtain ⟨frame, frame', outer, he, he', hx⟩ := hw.frames
  refine ⟨?_, ⟨frame, frame', outer, he, he', hx⟩, fun f hp hb => ?_, fun hx hp hb => ?_⟩
  · rw [Environment.depth, Environment.depth, he, he']
    rfl
  · refine hw.functions ?_
    rintro (h | ⟨name, u, hu, h⟩)
    · exact hp h
    · exact hb name u hu h
  · refine hw.eq_of_nothing hx ?_
    rintro f (h | ⟨name, u, hu, h⟩)
    · exact hp f h
    · exact hb name u hu f h

/-- The definition in the body goes with the frame of the call, which fails for want of a value. -/
theorem failing_call_leaves_no_trace :
    let u : UserFunction := ⟨"f", ["y"], .define "z" (.access "y")⟩
    let env : Environment := { globals := [("z", .dimensionless 1)], functions := [("f", .user u)] }
    ((call "f" [.number "2"]).run 1 env).1 = .error (.evaluation (.notAValue .nothing)) ∧
      ((call "f" [.number "2"]).run 1 env).2 = env := by
  intro u env
  refine ⟨by rfl, (run_respects_scopes _ env 1).2.2.2 ?_ ?_ fun name v hn => ?_⟩
  · rintro x ⟨b, h⟩
    obtain h | h := occurs_node rfl rfl h <;> cases h
  · rintro f ⟨xs, b, h⟩
    obtain h | h := occurs_node rfl rfl h <;> cases h
  · rw [Bindings.get?_cons] at hn
    split at hn
    · obtain rfl : u = v := by simpa using hn
      rintro f ⟨xs, b, h⟩
      obtain h | h := occurs_node rfl rfl h <;> cases h
    · contradiction

end Phrase

end QuantityCalculator
