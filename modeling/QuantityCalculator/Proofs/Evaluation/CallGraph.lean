import Mathlib.Data.List.Perm.Subperm
import Mathlib.Logic.Relation
import Mathlib.Order.Lattice.Nat
import QuantityCalculator.Proofs.Evaluation.Visible

/-!
Functions that call each other. Main statement: where no function that a phrase leads to leads to itself,
the evaluation ends, and calls nest no deeper than the longest path of calls is long.
-/

namespace QuantityCalculator

open Eval Relation

lemma Bindings.mem_of_get? {α : Type} {b : Bindings α} {x : String} {a : α}
    (h : b.get? x = some a) : (x, a) ∈ b := by
  induction b with
  | nil => contradiction
  | cons e b ih =>
    rw [Bindings.get?_cons] at h
    split at h
    · next hx =>
      cases h
      exact hx ▸ List.mem_cons_self
    · exact List.mem_cons_of_mem e (ih h)

namespace Eval

variable {α : Type} {env : Environment} {d : Nat}

/-- In `env`, which it leaves as it is, `x` comes to an end that is not for want of depth. -/
abbrev Finishes (x : Eval α) (env : Environment) : Prop :=
  Ends (· ≠ .callsTooDeep) x env fun _ => True

lemma Finishes.map {β : Type} {x : Eval α} {g : α → β} (hx : x.Finishes env) :
    Finishes (do return g (← x)) env :=
  Ends.map hx fun _ _ => trivial

lemma finishes_ofResult {r : Except Error α} (h : ∀ e, r = .error e → e ≠ .callsTooDeep) :
    (ofResult r).Finishes env :=
  (ends_ofResult h).mono fun _ _ => trivial

lemma finishes_ofUnit (r : Except UnitError α) : (ofUnit r).Finishes env :=
  (ends_ofUnit (by simp)).mono fun _ _ => trivial

lemma finishes_access (x : String) : (access x).Finishes env :=
  (ends_access (by simp)).mono fun _ _ => trivial

lemma finishes_literalValue (s : String) : (ofResult (literalValue s)).Finishes env := by
  refine finishes_ofResult fun e h => ?_
  rw [literalValue] at h
  split at h
  · contradiction
  · split at h <;> cases h
    simp

lemma Finishes.ifRoom {x : Eval α} (h : env.depth < d) (hx : x.Finishes env) :
    (ifRoom d x).Finishes env := by
  obtain ⟨r, hr, hp⟩ := hx
  exact ⟨r, (if_pos h).trans hr, hp⟩

lemma Finishes.quantity {x : Eval Outcome} (hx : x.Finishes env) :
    (x >>= Eval.quantity).Finishes env := by
  refine hx.bind fun o _ _ => ?_
  cases o with
  | value q => exact ends_pure trivial
  | signal s => exact ends_throw (by simp)

end Eval

lemma Builtin.finishes_apply (f : Builtin) (as : List Quantity) {env : Environment} :
    (ofResult (f.apply as)).Finishes env := by
  refine finishes_ofResult fun e h => ?_
  rintro rfl
  cases isExpected_of_apply h

namespace Phrase

/-- The phrase calls the user's function `f`, which is `u`. -/
def Calls (table : Bindings Function) (p : Phrase) (f : String) (u : UserFunction) : Prop :=
  table.get? f = some (.user u) ∧ ∃ as, (call f as).Occurs p

/-- The body of the user's function `f` calls the user's function `g`. -/
def CallsNext (table : Bindings Function) (f g : String) : Prop :=
  ∃ u v, table.get? f = some (.user u) ∧ u.body.Calls table g v

/-- From no call in the phrase there is a way to a cycle. -/
def Acyclic (table : Bindings Function) (p : Phrase) : Prop :=
  ∀ f u g, p.Calls table f u → ReflTransGen (CallsNext table) f g → ¬ TransGen (CallsNext table) g g

/-- Functions of which the phrase calls the first and each one the next. -/
inductive CallPath (table : Bindings Function) : Phrase → List String → Prop
  | nil {p} : CallPath table p []
  | cons {p f u fs} : p.Calls table f u → CallPath table u.body fs → CallPath table p (f :: fs)

variable {table : Bindings Function} {p q c : Phrase} {f g : String} {u : UserFunction}
  {fs gs : List String} {n m : Nat} {env env' : Environment} {as : List Quantity}
  {args : List Phrase} {caller : Caller} {d : Nat}

lemma Calls.of_child (h : c.Calls table f u) (hc : c ∈ p.children) : p.Calls table f u := by
  obtain ⟨hu, as, ho⟩ := h
  exact ⟨hu, as, .inside hc ho⟩

lemma CallPath.of_child (h : c.CallPath table fs) (hc : c ∈ p.children) : p.CallPath table fs := by
  cases h with
  | nil => exact .nil
  | cons hf h => exact .cons (hf.of_child hc) h

lemma CallPath.leads (h : u.body.CallPath table fs) (hf : table.get? f = some (.user u))
    (hg : g ∈ fs) : TransGen (CallsNext table) f g := by
  generalize hp : u.body = p at h
  induction h generalizing f u with
  | nil => cases hg
  | @cons p k v fs hk _ ih =>
    have hn : CallsNext table f k := ⟨u, v, hf, hp ▸ hk⟩
    obtain rfl | hg := List.mem_cons.mp hg
    · exact .single hn
    · exact .head hn (ih hk.1 hg rfl)

lemma Acyclic.body (h : p.Acyclic table) (hf : p.Calls table f u) : u.body.Acyclic table :=
  fun _ v k hg hk => h f u k hf (.head ⟨u, v, hf.1, hg⟩ hk)

lemma CallPath.nodup (h : p.CallPath table fs) (ha : p.Acyclic table) : fs.Nodup := by
  induction h with
  | nil => exact List.nodup_nil
  | @cons p f u fs hf h ih =>
    have hn : f ∉ fs := fun hm => ha f u f hf .refl (h.leads hf.1 hm)
    exact List.nodup_cons.mpr ⟨hn, ih (ha.body hf)⟩

lemma CallPath.subset (h : p.CallPath table fs) : fs ⊆ table.map Prod.fst := by
  induction h with
  | nil => exact List.nil_subset _
  | cons hf _ ih =>
    exact List.cons_subset.mpr ⟨List.mem_map_of_mem (Bindings.mem_of_get? hf.1), ih⟩

lemma exists_longest (ha : p.Acyclic table) :
    ∃ k, IsGreatest {k | ∃ fs, p.CallPath table fs ∧ fs.length = k} k := by
  let lengths : Set Nat := {k | ∃ fs, p.CallPath table fs ∧ fs.length = k}
  have hn : lengths.Nonempty := ⟨0, [], .nil, rfl⟩
  -- A path without a cycle names no function of the table twice.
  have hb : BddAbove lengths := by
    refine ⟨table.length, ?_⟩
    rintro _ ⟨fs, h, rfl⟩
    have hl := (List.subperm_of_subset (h.nodup ha) h.subset).length_le
    rwa [List.length_map] at hl
  exact ⟨sSup lengths, Nat.sSup_mem hn hb, fun k hk => le_csSup hb hk⟩

/-- What is evaluated on the way stands at the end of a path of calls, each of which took one frame. -/
lemma Reaches.exists_path (h : Reaches n env p m env' q) :
    ∃ fs : List String, fs.length + m = n ∧ env'.depth = env.depth + fs.length ∧
      env'.functions = env.functions ∧
      ∀ gs, q.CallPath env.functions gs → p.CallPath env.functions (fs ++ gs) := by
  induction h with
  | self => exact ⟨[], Nat.zero_add _, rfl, rfl, fun _ => id⟩
  | @operand n env p pre c post m env' q _ hc _ _ ih =>
    obtain ⟨fs, hl, hd, ht, hg⟩ := ih
    have hm : c ∈ p.children := hc ▸ List.mem_append_right pre List.mem_cons_self
    exact ⟨fs, hl, hd, ht, fun gs h => (hg gs h).of_child hm⟩
  | @body n env f u args as m env' q hu _ _ _ ih =>
    obtain ⟨fs, hl, hd, ht, hg⟩ := ih
    refine ⟨f :: fs, ?_, ?_, ht, fun gs h => .cons ⟨hu, args, .self⟩ (hg gs h)⟩
    · rw [List.length_cons]
      omega
    · rw [hd, Environment.depth_push, List.length_cons]
      omega

lemma finishes_quantities (h : ∀ a ∈ args, (a.evaluateWith caller).Finishes env) :
    (quantitiesWith caller args).Finishes env := by
  induction args with
  | nil => exact ends_pure trivial
  | cons a args ih =>
    refine (h a List.mem_cons_self).quantity.bind fun q _ _ => ?_
    exact (ih fun b hb => h b (List.mem_cons_of_mem a hb)).map

lemma DefinesNothing.finishesWith (hp : p.DefinesNothing)
    (hc : ∀ {f u as}, p.Calls env.functions f u → (caller u as).Finishes env) :
    (p.evaluateWith caller).Finishes env := by
  have child {p c : Phrase} (hp : p.DefinesNothing)
      (hc : ∀ {f u as}, p.Calls env.functions f u → (caller u as).Finishes env) (hm : c ∈ p.children)
      (ih : c.DefinesNothing → (∀ {f u as}, c.Calls env.functions f u → (caller u as).Finishes env) →
        (c.evaluateWith caller).Finishes env) : (c.evaluateWith caller).Finishes env :=
    ih (hp.child hm) fun h => hc (h.of_child hm)
  induction p using Phrase.induction with
  | number s => exact (finishes_literalValue s).map
  | unit fs => exact (finishes_ofUnit _).map
  | access x => exact (finishes_access x).map
  | render | newline | exit | quit => exact ends_pure trivial
  | binary o l r ihl ihr =>
    refine (child hp hc (by simp [children]) ihl).quantity.bind fun a _ _ => ?_
    refine (child hp hc (by simp [children]) ihr).quantity.bind fun b _ _ => ?_
    exact (finishes_ofUnit _).map
  | measured v w ihv ihw =>
    refine (child hp hc (by simp [children]) ihv).quantity.bind fun a _ _ => ?_
    exact (child hp hc (by simp [children]) ihw).quantity.map
  | negate p ih | absolute p ih | group p ih =>
    exact (child hp hc (by simp [children]) ih).quantity.map
  | evaluate p ih | exclude p ih =>
    have h : (p.evaluateWith caller).Finishes env := child hp hc (by simp [children]) ih
    exact h
  | define x p => exact absurd ⟨p, .self⟩ (hp.noVariable x)
  | defineFunction f xs p => exact absurd ⟨xs, p, .self⟩ (hp.noFunction f)
  | call f args ih =>
    refine (ends_callee (by simp)).bind fun g _ hg => ?_
    refine (finishes_quantities fun a ha => child hp hc ha (ih a ha)).bind fun vs _ _ => ?_
    cases g with
    | builtin g => exact (g.finishes_apply vs).map
    | user u => exact (hc ⟨hg, args, .self⟩).map

/-- Each call on a path takes one of the levels that calls may nest, and one frame. -/
lemma finishes_runWithin (hp : p.DefinesNothing) (hb : env.BodiesDefineNothing)
    (hk : ∀ fs, p.CallPath env.functions fs → fs.length ≤ n ∧ env.depth + fs.length ≤ d) :
    (p.runWithin d n).Finishes env := by
  induction n generalizing p env with
  | zero => exact hp.finishesWith fun hf => absurd (hk _ (.cons hf .nil)).1 (by simp)
  | succ n ih =>
    refine hp.finishesWith fun {f u as} hf => ?_
    refine Finishes.ifRoom (hk [f] (.cons hf .nil)).2 ?_
    rw [enter]
    split
    · refine (ih (hb f u hf.1) (by exact hb) fun fs h => ?_).quantity.within
      obtain ⟨hl, hd⟩ := hk (f :: fs) (.cons hf h)
      rw [List.length_cons] at hl hd
      rw [Environment.depth_push]
      omega
    · exact ends_throw (by simp)

/-- A phrase without definitions, where functions are without definitions and no call in it leads to a
cycle of calls, comes to an outcome or an error, the same however much deeper calls may nest than the
longest path of calls is long, and the same if one frame more than those at first and one for each call
on that path were refused; nor has anything that is evaluated on the way more frames. -/
theorem run_acyclic (hp : p.DefinesNothing) (hb : env.BodiesDefineNothing)
    (ha : p.Acyclic env.functions) :
    ∃ k, IsGreatest {k | ∃ fs, p.CallPath env.functions fs ∧ fs.length = k} k ∧
      (∃ r, r ≠ .error .callsTooDeep ∧
        ∀ n ≥ k, p.run n env = (r, env) ∧ p.runWithin (env.depth + k) n env = (r, env)) ∧
      ∀ n m env' q, Reaches n env p m env' q → env'.depth ≤ env.depth + k := by
  obtain ⟨k, hk⟩ := exists_longest ha
  have hl (fs : List String) (h : p.CallPath env.functions fs) : fs.length ≤ k := hk.2 ⟨fs, h, rfl⟩
  have hw (n : Nat) (hn : k ≤ n) : ∃ r, r ≠ .error .callsTooDeep ∧ p.run n env = (r, env) ∧
      p.runWithin (env.depth + k) n env = (r, env) := by
    have hf : (p.runWithin (env.depth + k) n).Finishes env := finishes_runWithin hp hb fun fs h =>
      ⟨(hl fs h).trans hn, Nat.add_le_add_left (hl fs h) _⟩
    obtain ⟨r, hr, he⟩ := hf
    have hr' : r ≠ .error .callsTooDeep := by
      rintro rfl
      exact he rfl
    refine ⟨r, hr', ?_, hr⟩
    rw [← hr]
    exact (deepens_runWithin _ n p env).resolve_left (by rwa [hr])
  refine ⟨k, hk, ?_, fun n m env' q hq => ?_⟩
  · obtain ⟨r, hr, hrun, -⟩ := hw k le_rfl
    refine ⟨r, hr, fun n hn => ?_⟩
    obtain ⟨r', -, hrun', hr'⟩ := hw n hn
    have he := run_eq_of_le hn (by rwa [hrun])
    rw [hrun, hrun'] at he
    cases he
    exact ⟨hrun', hr'⟩
  · obtain ⟨fs, -, hd, -, hg⟩ := hq.exists_path
    have hf := hl _ (hg [] .nil)
    rw [List.append_nil] at hf
    omega

/-- `f(2)` with `f(x) = g(x)` and `g(x) = x`; that `h` calls itself does not matter. -/
theorem call_through_two_functions_ends :
    let table := [("f", Function.user ⟨"f", ["x"], call "g" [access "x"]⟩),
      ("g", Function.user ⟨"g", ["x"], access "x"⟩),
      ("h", Function.user ⟨"h", ["x"], call "h" [access "x"]⟩)]
    let p := call "f" [number "2"]
    let env : Environment := { functions := table }
    p.DefinesNothing ∧ env.BodiesDefineNothing ∧ p.Acyclic table ∧
      ∃ k, IsGreatest {k | ∃ fs, p.CallPath table fs ∧ fs.length = k} k ∧
        (p.run k env).1 ≠ .error .callsTooDeep := by
  intro table p env
  have h2 : (number "2").IsExpression := .number (.inr rfl)
  have hp : p.IsExpression := .call (List.forall_mem_singleton.mpr h2)
  have hbody (name : String) (u : UserFunction) (h : Bindings.get? table name = some (.user u)) :
      (name = "f" ∧ u.body = call "g" [access "x"]) ∨ (name = "g" ∧ u.body = access "x") ∨
        (name = "h" ∧ u.body = call "h" [access "x"]) := by
    simp only [table, Bindings.get?_cons] at h
    grind [Bindings.get?]
  have hb : env.BodiesDefineNothing := by
    intro name u hu
    have hcall (f : String) : (call f [access "x"]).IsExpression :=
      .call (List.forall_mem_singleton.mpr .access)
    obtain ⟨-, h⟩ | ⟨-, h⟩ | ⟨-, h⟩ := hbody name u hu <;> rw [h]
    · exact (hcall "g").definesNothing
    · exact IsExpression.access.definesNothing
    · exact (hcall "h").definesNothing
  have hnext (f g : String) (h : CallsNext table f g) : (f = "f" ∧ g = "g") ∨ (f = "h" ∧ g = "h") := by
    obtain ⟨u, v, hu, -, as, ho⟩ := h
    obtain ⟨rfl, h⟩ | ⟨rfl, h⟩ | ⟨rfl, h⟩ := hbody f u hu <;> rw [h] at ho
    · obtain h | h := occurs_node rfl rfl ho <;> cases h
      exact .inl ⟨rfl, rfl⟩
    · cases occurs_leaf rfl ho
    · obtain h | h := occurs_node rfl rfl ho <;> cases h
      exact .inr ⟨rfl, rfl⟩
  have ha : p.Acyclic table := by
    rintro f u k ⟨-, as, ho⟩ hk hc
    obtain rfl : f = "f" := by
      obtain h | h := occurs_node rfl rfl ho
      · exact (call.inj h).1
      · cases h
    have hk : k = "f" ∨ k = "g" := by
      clear hc
      induction hk with
      | refl => exact .inl rfl
      | @tail i j _ hn ih =>
        obtain ⟨-, rfl⟩ | ⟨rfl, -⟩ := hnext i j hn
        · exact .inr rfl
        · simp at ih
    obtain ⟨i, hi, -⟩ := TransGen.head'_iff.mp hc
    obtain ⟨j, -, hj⟩ := TransGen.tail'_iff.mp hc
    have hi := hnext k i hi
    have hj := hnext j k hj
    grind
  obtain ⟨k, hk, ⟨r, hr, he⟩, -⟩ := run_acyclic hp.definesNothing hb ha
  refine ⟨hp.definesNothing, hb, ha, k, hk, ?_⟩
  rwa [(he k le_rfl).1]

end Phrase

end QuantityCalculator
