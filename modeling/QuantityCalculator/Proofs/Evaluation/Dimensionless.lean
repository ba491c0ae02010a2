import QuantityCalculator.Proofs.Evaluation.Computes
import QuantityCalculator.Proofs.Evaluation.Depth
import QuantityCalculator.Proofs.Evaluation.Lookups
import QuantityCalculator.Proofs.Number.Neutral

/-!
Phrases without units. What they come to is dimensionless, and no unit makes them fail, as long as each
exponent on the way is finite.
-/

namespace QuantityCalculator

open Eval

/-- The error blames a unit. -/
def Error.IsOfUnits : Error → Prop
  | unit (.mismatch ..) | unit (.exponentHasUnit _) | argumentHasUnit .. => True
  | _ => False

namespace Dimension

variable {a b d : Dimension} {p : Float}

lemma isDimensionless_iff : d.isDimensionless ↔ ∀ u, Double.IsZero (d.exponent u) := by
  rw [isDimensionless, agrees_iff]
  refine forall_congr' fun u => ?_
  rw [exponent_dimensionless]
  exact Double.beq_zero_iff

lemma isDimensionless_dimensionless : dimensionless.isDimensionless :=
  isDimensionless_iff.mpr fun u => exponent_dimensionless u ▸ Double.isZero_zero

lemma agrees_of_isDimensionless (ha : a.isDimensionless) (hb : b.isDimensionless) : a.agrees b :=
  (agrees_iff a b).mpr fun u => (isDimensionless_iff.mp ha u).beq (isDimensionless_iff.mp hb u)

lemma isDimensionless_mul (ha : a.isDimensionless) (hb : b.isDimensionless) :
    (a * b).isDimensionless := by
  refine isDimensionless_iff.mpr fun u => ?_
  rw [exponent_mul]
  exact (isDimensionless_iff.mp ha u).add (isDimensionless_iff.mp hb u)

lemma isDimensionless_div (ha : a.isDimensionless) (hb : b.isDimensionless) :
    (a / b).isDimensionless := by
  refine isDimensionless_iff.mpr fun u => ?_
  rw [exponent_div]
  exact (isDimensionless_iff.mp ha u).sub (isDimensionless_iff.mp hb u)

lemma isDimensionless_power_iff (hd : d.isDimensionless) :
    (d.power p).isDimensionless ↔ p.isFinite := by
  have hz (u : BaseUnit) : Double.IsZero ((d.power p).exponent u) ↔ p.isFinite := by
    rw [exponent_power]
    exact (isDimensionless_iff.mp hd u).mul_iff
  rw [isDimensionless_iff]
  exact ⟨fun h => (hz .second).mp (h .second), fun h u => (hz u).mpr h⟩

end Dimension

variable {l r q : Quantity} {as : List Quantity}

lemma Operator.apply_isDimensionless (o : Operator) (hl : l.isDimensionless)
    (hr : r.isDimensionless) (hf : o = .power → r.value.isFinite) :
    ∃ q, o.apply l r = .ok q ∧ q.isDimensionless := by
  have common (v : Float) : (l.dimension.common r.dimension).map (Quantity.mk v) =
      .ok ⟨v, l.dimension⟩ := by
    rw [Dimension.common, if_pos (Dimension.agrees_of_isDimensionless hl hr)]
    rfl
  cases o with
  | add => exact ⟨_, common _, hl⟩
  | subtract => exact ⟨_, common _, hl⟩
  | multiply => exact ⟨_, rfl, Dimension.isDimensionless_mul hl hr⟩
  | divide => exact ⟨_, rfl, Dimension.isDimensionless_div hl hr⟩
  | power => exact ⟨_, if_pos hr, (Dimension.isDimensionless_power_iff hl).mpr (hf rfl)⟩

namespace Builtin

lemma plain_of_isDimensionless (f : Builtin) (h : q.isDimensionless) : f.plain q = .ok q.value :=
  if_pos h

lemma elementary_of_isDimensionless (f : Builtin) (g : Float → Float) (h : q.isDimensionless) :
    f.elementary g q = .ok (.dimensionless (g q.value)) := by
  rw [elementary, plain_of_isDimensionless f h]
  rfl

/-- The root of a quantity is its power to one half, which is finite. -/
lemma apply_isDimensionless (f : Builtin) (h : ∀ q ∈ as, q.isDimensionless) :
    (∃ q, f.apply as = .ok q ∧ q.isDimensionless) ∨
      f.apply as = .error (.wrongArity f.name f.arity as.length) := by
  have hd (x : Float) : (Quantity.dimensionless x).isDimensionless :=
    Dimension.isDimensionless_dimensionless
  match as with
  | [] => exact .inr (by cases f <;> rfl)
  | [q] =>
    have hq := h q (by simp)
    refine .inl ?_
    cases f with
    | sqrt => exact ⟨_, rfl, (Dimension.isDimensionless_power_iff hq).mpr (by decide +kernel)⟩
    | _ => exact ⟨_, elementary_of_isDimensionless _ _ hq, hd _⟩
  | [q, base] =>
    cases f with
    | log =>
      refine .inl ⟨_, ?_, hd (q.value.log / base.value.log)⟩
      rw [apply, log.plain_of_isDimensionless (h q (by simp)),
        log.plain_of_isDimensionless (h base (by simp))]
      rfl
    | _ => exact .inr rfl
  | _ :: _ :: _ :: _ => exact .inr (by cases f <;> rfl)

end Builtin

namespace Environment

variable {env : Environment} {frame : Frame}

/-- No variable that can be seen has a unit, and no function that was read names one. -/
structure UnitFree (env : Environment) : Prop where
  get? : ∀ x q, env.get? x = some q → q.isDimensionless
  body : ∀ f u, env.functions.get? f = some (.user u) → u.body.IsExpression ∧ u.body.UnitFree

lemma UnitFree.push (h : env.UnitFree)
    (hf : ∀ x q, Bindings.get? frame x = some q → q.isDimensionless) : (env.push frame).UnitFree := by
  refine ⟨fun x q hq => ?_, h.body⟩
  rw [get?_push] at hq
  obtain hq | ⟨-, hq⟩ := Option.or_eq_some_iff.mp hq
  · exact hf x q hq
  · exact h.get? x q hq

end Environment

lemma Bindings.mem_of_ofEntries {α : Type} {entries : List (String × α)} {x : String} {a : α}
    (h : (Bindings.ofEntries entries).get? x = some a) : (x, a) ∈ entries := by
  have fold (es : List (String × α)) (b : Bindings α)
      (h : Bindings.get? (es.foldl (fun b e => Bindings.insert b e.1 e.2) b) x = some a) :
      (x, a) ∈ es ∨ b.get? x = some a := by
    induction es generalizing b with
    | nil => exact .inr h
    | cons e es ih =>
      obtain h | h := ih _ h
      · exact .inl (List.mem_cons_of_mem e h)
      · rw [Bindings.get?_insert] at h
        split at h
        · next hx =>
          cases h
          exact .inl (hx ▸ List.mem_cons_self)
        · exact .inr h
  exact (fold entries [] h).resolve_right (Option.some_ne_none a).symm

namespace Phrase

/-- No power on the way has an exponent that is infinite or not a number. -/
def FinitePowers (n : Nat) (env : Environment) (p : Phrase) : Prop :=
  ∀ m env' l r a b, Reaches n env p m env' (binary .power l r) → l.Gives m env' a →
    r.Gives m env' b → b.value.isFinite

variable {n m : Nat} {env env' : Environment} {p c : Phrase} {pre post args : List Phrase}
  {f : String} {u : UserFunction}

lemma FinitePowers.operand (h : p.FinitePowers n env) (ho : p.Opens env)
    (hc : p.children = pre ++ c :: post) (hp : ∀ d ∈ pre, ∃ v, d.Gives n env v) :
    c.FinitePowers n env :=
  fun m env' l r a b hr => h m env' l r a b (.operand ho hc hp hr)

lemma FinitePowers.first (h : p.FinitePowers n env) (ho : p.Opens env)
    (hc : p.children = c :: post) : c.FinitePowers n env :=
  h.operand ho (hc.trans (List.nil_append _).symm) (List.forall_mem_nil _)

lemma FinitePowers.second {d : Phrase} {v : Quantity} (h : p.FinitePowers n env) (ho : p.Opens env)
    (hc : p.children = [d, c]) (hd : d.Gives n env v) : c.FinitePowers n env := by
  have hc : p.children = [d] ++ c :: [] := hc
  exact h.operand ho hc (List.forall_mem_singleton.mpr ⟨v, hd⟩)

lemma FinitePowers.body (h : (call f args).FinitePowers (n + 1) env)
    (hu : env.functions.get? f = some (.user u)) (hv : List.Forall₂ (Gives (n + 1) env) args as)
    (hl : u.parameters.length = as.length) :
    u.body.FinitePowers n (env.push (Bindings.ofEntries (u.parameters.zip as))) :=
  fun m env' l r a b hr => h m env' l r a b (.body hu hv hl hr)

end Phrase

/-- `x` comes to a value without a dimension, or to an error that is not about units. -/
abbrev Eval.Plain (x : Eval Outcome) (env : Environment) : Prop :=
  Ends (¬ ·.IsOfUnits) x env fun o => ∃ q, o = .value q ∧ q.isDimensionless

namespace Phrase

variable {n m : Nat} {env env' : Environment} {p c : Phrase} {pre post args : List Phrase}
  {f : String} {u : UserFunction} {caller : Caller}

lemma plain_quantities (hr : run n = evaluateWith caller)
    (h : ∀ pre c post, args = pre ++ c :: post → (∀ d ∈ pre, ∃ v, d.Gives n env v) →
      Plain (c.run n) env) :
    Ends (¬ ·.IsOfUnits) (quantitiesWith caller args) env fun vs =>
      List.Forall₂ (Gives n env) args vs ∧ ∀ q ∈ vs, q.isDimensionless := by
  induction args with
  | nil => exact ends_pure ⟨.nil, List.forall_mem_nil _⟩
  | cons p ps ih =>
    have hp := (h [] p ps rfl (List.forall_mem_nil _)).quantity
    rw [hr] at hp
    refine hp.bind fun q hq hd => ?_
    rw [← hr] at hq
    have hps := ih fun pre c post hc hpre =>
      h (p :: pre) c post (congrArg (p :: ·) hc) (List.forall_mem_cons.mpr ⟨⟨q, hq⟩, hpre⟩)
    refine hps.map fun vs hvs => ?_
    exact ⟨.cons hq hvs.1, List.forall_mem_cons.mpr ⟨hd, hvs.2⟩⟩

lemma IsExpression.plainWith (hr : run n = evaluateWith caller)
    (hc : ∀ {f u args as}, env.functions.get? f = some (.user u) →
      List.Forall₂ (Gives n env) args as → (∀ q ∈ as, q.isDimensionless) →
      (Phrase.call f args).FinitePowers n env →
      Ends (¬ ·.IsOfUnits) (caller u as) env (·.isDimensionless))
    (he : env.UnitFree) (hp : p.IsExpression) (hu : p.UnitFree) (hf : p.FinitePowers n env) :
    Plain (p.run n) env := by
  rw [hr]
  induction hp with
  | @number s _ =>
    refine (ends_ofResult ?_).map fun v _ => ⟨_, rfl, Dimension.isDimensionless_dimensionless⟩
    intro e h
    rw [literalValue] at h
    split at h
    · contradiction
    · split at h <;> cases h
      exact not_false
  | @binary o l r _ _ ihl ihr =>
    have hl := ihl (hu.child (by simp [children])) (hf.first trivial rfl)
    refine hl.quantity.bind fun a ha hda => ?_
    rw [← hr] at ha
    have hr' := ihr (hu.child (by simp [children])) (hf.second trivial rfl ha)
    refine hr'.quantity.bind fun b hb hdb => ?_
    rw [← hr] at hb
    -- The exponent multiplies the zeros of the dimension, so here alone a magnitude matters.
    have hp (h : o = .power) : b.value.isFinite := by
      subst h
      exact hf n env l r a b .self ha hb
    obtain ⟨q, hq, hd⟩ := o.apply_isDimensionless hda hdb hp
    rw [hq]
    exact ends_pure ⟨q, rfl, hd⟩
  | negate _ ih | absolute _ ih | group _ ih =>
    have hp := ih (hu.child (by simp [children])) (hf.first trivial rfl)
    exact hp.quantity.map fun q hq => ⟨_, rfl, hq⟩
  | unit => exact absurd .self (hu _)
  | @measured v w _ _ ihv ihw =>
    have hv := ihv (hu.child (by simp [children])) (hf.first trivial rfl)
    refine hv.quantity.bind fun a ha hda => ?_
    rw [← hr] at ha
    have hw := ihw (hu.child (by simp [children])) (hf.second trivial rfl ha)
    exact hw.quantity.map fun b hdb => ⟨_, rfl, Dimension.isDimensionless_mul hda hdb⟩
  | @access x => exact (ends_access not_false).map fun q hq => ⟨q, rfl, he.get? x q hq⟩
  | @call f args _ ih =>
    refine (ends_callee not_false).bind fun g _ hg => ?_
    have ho : (Phrase.call f args).Opens env := Option.isSome_of_eq_some hg
    have hargs (pre : List Phrase) (c : Phrase) (post : List Phrase) (h : args = pre ++ c :: post)
        (hpre : ∀ d ∈ pre, ∃ v, d.Gives n env v) : Plain (c.run n) env := by
      have hm : c ∈ args := h ▸ List.mem_append_right pre List.mem_cons_self
      rw [hr]
      exact ih c hm (hu.child hm) (hf.operand ho h hpre)
    refine (plain_quantities hr hargs).bind fun vs _ hvs => ?_
    obtain ⟨hvs, hd⟩ := hvs
    cases g with
    | builtin g =>
      obtain ⟨q, hq, hd⟩ | hq := g.apply_isDimensionless hd
      · rw [Function.apply, hq]
        exact ends_pure ⟨q, rfl, hd⟩
      · rw [Function.apply, hq]
        exact ends_throw not_false
    | user u => exact (hc hg hvs hd hf).map fun q hq => ⟨q, rfl, hq⟩

lemma plain_enter (ih : ∀ {p : Phrase} {env}, env.UnitFree → p.IsExpression → p.UnitFree →
      p.FinitePowers n env → Plain (p.run n) env)
    (he : env.UnitFree) (hu : env.functions.get? f = some (.user u))
    (hv : List.Forall₂ (Gives (n + 1) env) args as) (hd : ∀ q ∈ as, q.isDimensionless)
    (hf : (call f args).FinitePowers (n + 1) env) :
    Ends (¬ ·.IsOfUnits) (enter (run n) u as) env (·.isDimensionless) := by
  rw [enter]
  split
  · next hl =>
    have hframe : (env.push (Bindings.ofEntries (u.parameters.zip as))).UnitFree :=
      he.push fun x q hq => hd q (List.of_mem_zip (Bindings.mem_of_ofEntries hq)).2
    obtain ⟨hb, hbu⟩ := he.body f u hu
    exact (ih hframe hb hbu (hf.body hu hv hl)).quantity.within
  · exact ends_throw not_false

lemma IsExpression.plain (he : env.UnitFree) (hp : p.IsExpression) (hu : p.UnitFree)
    (hf : p.FinitePowers n env) : Plain (p.run n) env := by
  induction n generalizing p env with
  | zero => exact hp.plainWith rfl (fun _ _ _ _ => ends_throw not_false) he hu hf
  | succ n ih =>
    exact hp.plainWith rfl (fun hu hv hd hf => plain_enter ih he hu hv hd hf) he hu hf

/-- A phrase that was read and names no unit, where no variable has a unit and the bodies of functions
are such phrases, comes to a value without a dimension or to an error that is not about units, as long
as no power on the way has an exponent that is infinite or not a number. -/
theorem run_dimensionless (n : Nat) (he : env.UnitFree) (hp : p.IsExpression) (hu : p.UnitFree)
    (hf : p.FinitePowers n env) :
    (∀ q, (p.run n env).1 = .ok (.value q) → q.isDimensionless) ∧
      ∀ e, (p.run n env).1 = .error e → ¬ e.IsOfUnits := by
  obtain ⟨r, hr, h⟩ := hp.plain he hu hf
  rw [hr]
  constructor
  · rintro q rfl
    obtain ⟨_, hq, hd⟩ := h
    cases hq
    exact hd
  · rintro e rfl
    exact h

lemma unitFree_empty : Environment.empty.UnitFree :=
  ⟨fun _ _ h => absurd h (Option.some_ne_none _).symm,
    fun f u hu => absurd hu (Environment.get?_builtins_ne f u)⟩

lemma unitFree_number (s : String) : (number s).UnitFree :=
  unitFree_of_children (by simp) (by simp [children])

lemma unitFree_binary {o : Operator} {l r : Phrase} (hl : l.UnitFree) (hr : r.UnitFree) :
    (binary o l r).UnitFree :=
  unitFree_of_children (by simp) (by simp [children, hl, hr])

lemma Reaches.of_number {s : String} (h : Reaches n env (number s) m env' p) : p = number s := by
  cases h with
  | self => rfl
  | operand _ hc => simp [children] at hc

lemma finitePowers_of_numbers {s t : String} (h : ∀ v, (number t).Gives n env v → v.value.isFinite) :
    (binary .power (number s) (number t)).FinitePowers n env := by
  intro m env' l r a b hreach _ hb
  cases hreach with
  | self => exact h b hb
  | @operand _ _ _ _ c _ _ _ _ _ hc _ hreach =>
    have hm : c ∈ (binary .power (number s) (number t)).children := by
      rw [hc]
      exact List.mem_append_right _ List.mem_cons_self
    obtain rfl | rfl := by simpa [children] using hm
    · cases hreach.of_number
    · cases hreach.of_number

theorem cube_is_dimensionless :
    let p := binary .power (number "2") (number "3")
    Environment.empty.UnitFree ∧ p.IsExpression ∧ p.UnitFree ∧ p.FinitePowers 0 .empty ∧
      ∃ q, (p.run 0 .empty).1 = .ok (.value q) ∧ q.isDimensionless := by
  intro p
  have hp : p.IsExpression := .binary (.number (.inr rfl)) (.number (.inr rfl))
  have hu : p.UnitFree := unitFree_binary (unitFree_number _) (unitFree_number _)
  have hf : p.FinitePowers 0 .empty := by
    refine finitePowers_of_numbers fun v hv => ?_
    have h3 : (number "3").Gives 0 .empty (.dimensionless 3) := rfl
    cases h3.symm.trans hv
    decide +kernel
  have hr : (p.run 0 .empty).1 = .ok (.value ((Quantity.dimensionless 2).power 3)) := by
    with_unfolding_all rfl
  have he := unitFree_empty
  exact ⟨he, hp, hu, hf, _, hr, (run_dimensionless 0 he hp hu hf).1 _ hr⟩

/-- One to the power of infinity is one, with a dimension of its own: one cannot be added to it. -/
theorem infinite_power_has_dimension :
    Environment.empty.UnitFree ∧
      (∃ p, parse "1^(1/0)" = .ok (.evaluate p) ∧ p.UnitFree ∧
        ∃ q, (p.run callLimit .empty).1 = .ok (.value q) ∧ q.isDimensionless = false) ∧
      ∃ p, parse "1^(1/0)+1" = .ok (.evaluate p) ∧ p.UnitFree ∧
        ∃ a b, (p.run callLimit .empty).1 = .error (.unit (.mismatch a b)) := by
  let quotient := group (binary .divide (number "1") (number "0"))
  let power := binary .power (number "1") quotient
  let sum := binary .add power (number "1")
  have hquotient : quotient.UnitFree := unitFree_of_children (by simp [quotient])
    (by simpa [quotient, children] using unitFree_binary (unitFree_number _) (unitFree_number _))
  have hpower : power.UnitFree := unitFree_binary (unitFree_number _) hquotient
  have hsum : sum.UnitFree := unitFree_binary hpower (unitFree_number _)
  refine ⟨unitFree_empty,
    ⟨power, ?_, hpower, (Quantity.dimensionless 1).power (1 / 0), ?_, ?_⟩,
    ⟨sum, ?_, hsum, Dimension.dimensionless.power (1 / 0), .dimensionless, ?_⟩⟩
  · with_unfolding_all rfl
  · with_unfolding_all rfl
  · decide +kernel
  · with_unfolding_all rfl
  · with_unfolding_all rfl

end Phrase

end QuantityCalculator
