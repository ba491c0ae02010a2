import QuantityCalculator.Proofs.Evaluation.Alike
import QuantityCalculator.Proofs.Evaluation.Depth

/-!
Dimensions do not depend on magnitudes: evaluations in environments that are alike come to the same up
to the values of quantities, if no exponent looks anything up.
-/

namespace QuantityCalculator

open Eval

namespace Eval

variable {α β : Type} {R : α → α → Prop} {S : β → β → Prop} {x y : Eval α} {f g : α → Eval β}
  {a b : α}

/-- In environments that are alike `x` and `y` come to the same up to `R`, and leave the environments
alike. -/
def Relates (R : α → α → Prop) (x y : Eval α) : Prop :=
  ∀ a b : Environment, a.Alike b → a.FixedExponents →
    SameUpTo R (x a).1 (y b).1 ∧ (x a).2.Alike (y b).2 ∧ (x a).2.FixedExponents

lemma relates_pure (h : R a b) : Relates R (pure a) (pure b) :=
  fun _ _ ha he => ⟨.ok h, ha, he⟩

lemma relates_throw {e : Error} : Relates R (throw e) (throw e) :=
  fun _ _ ha he => ⟨.error e, ha, he⟩

lemma Relates.bind (hx : Relates R x y) (hf : ∀ a b, R a b → Relates S (f a) (g b)) :
    Relates S (x >>= f) (y >>= g) := by
  intro a b ha he
  have h := hx a b ha he
  rcases hxa : x a with ⟨r, a'⟩
  rcases hyb : y b with ⟨r', b'⟩
  rw [hxa, hyb] at h
  obtain ⟨⟨hr⟩ | ⟨e⟩, ha', he'⟩ := h
  · rw [bind_of_ok hxa, bind_of_ok hyb]
    exact hf _ _ hr a' b' ha' he'
  · rw [bind_of_error hxa, bind_of_error hyb]
    exact ⟨.error e, ha', he'⟩

lemma Relates.map {h k : α → β} (hx : Relates R x y) (hf : ∀ a b, R a b → S (h a) (k b)) :
    Relates S (do return h (← x)) (do return k (← y)) :=
  hx.bind fun a b hr => relates_pure (hf a b hr)

lemma relates_ofResult {r r' : Except Error α} (h : SameUpTo R r r') :
    Relates R (ofResult r) (ofResult r') := by
  cases h with
  | ok h => exact relates_pure h
  | error e => exact relates_throw

lemma relates_ofUnit {r r' : Except UnitError α} (h : SameUpTo R r r') :
    Relates R (ofUnit r) (ofUnit r') := by
  cases h with
  | ok h => exact relates_pure h
  | error e => exact relates_throw

lemma Relates.quantity {x y : Eval Outcome} (h : Relates Outcome.Alike x y) :
    Relates Quantity.Alike (x >>= quantity) (y >>= quantity) := by
  refine h.bind fun o o' ho => ?_
  cases ho with
  | value hq => exact relates_pure hq
  | signal s => exact relates_throw

lemma relates_access (name : String) : Relates Quantity.Alike (access name) (access name) :=
  fun a b ha he => relates_ofResult (ha.lookupVariable name) a b ha he

lemma relates_callee (name : String) :
    Relates (fun f g => f = g ∧ ∀ u, f = .user u → u.body.FixedExponents) (callee name)
      (callee name) := by
  intro a b ha he
  refine relates_ofResult ?_ a b ha he
  rw [Environment.lookupFunction, Environment.lookupFunction, ← ha.functions]
  rcases hf : a.functions.get? name with _ | f
  · exact .error _
  · exact .ok ⟨rfl, fun u hu => he name u (hu ▸ hf)⟩

lemma relates_define (name : String) {q r : Quantity} (h : q.Alike r) :
    Relates Eq (modify (·.define name q) : Eval Unit) (modify (·.define name r)) := by
  intro a b ha he
  have hf : (a.define name q).functions = a.functions := by
    rw [Environment.define]
    split <;> rfl
  exact ⟨.ok rfl, ha.define name h, fun n f hn => he n f (hf ▸ hn)⟩

lemma relates_defineFunction {f : UserFunction} (h : f.body.FixedExponents) :
    Relates Eq (modify (·.defineFunction f) : Eval Unit) (modify (·.defineFunction f)) := by
  intro a b ha he
  refine ⟨.ok rfl, ha.defineFunction f, ?_⟩
  intro n g hn
  change (Bindings.insert a.functions f.name (.user f)).get? n = some (.user g) at hn
  rw [Bindings.get?_insert] at hn
  split at hn
  · cases hn
    exact h
  · exact he n g hn

lemma Relates.within {frame frame' : Frame} (hf : frame.Alike frame') (h : Relates R x y) :
    Relates R (within frame x) (within frame' y) := by
  intro a b ha he
  obtain ⟨hr, ha', he'⟩ := h _ _ (ha.push hf) he
  exact ⟨hr, ha'.pop, he'⟩

end Eval

open Eval

variable {l l' r r' : Quantity}

lemma common_sameUpTo (hl : l.Alike l') (hr : r.Alike r') {v v' : Float} :
    SameUpTo Quantity.Alike ((l.dimension.common r.dimension).map (⟨v, ·⟩))
      ((l'.dimension.common r'.dimension).map (⟨v', ·⟩)) := by
  rw [hl, hr, Dimension.common]
  split
  · exact .ok rfl
  · exact .error _

lemma dimensionless_alike (v w : Float) :
    (Quantity.dimensionless v).Alike (Quantity.dimensionless w) := rfl

lemma power_alike (h : l.Alike l') (p : Float) : (l.power p).Alike (l'.power p) :=
  congrArg (Dimension.power · p) h

lemma Operator.apply_sameUpTo (o : Operator) (hl : l.Alike l') (hr : r.Alike r')
    (hp : o = .power → r = r') : SameUpTo Quantity.Alike (o.apply l r) (o.apply l' r') := by
  cases o with
  | add | subtract => exact common_sameUpTo hl hr
  | multiply => exact .ok (congrArg₂ (· * ·) hl hr)
  | divide => exact .ok (congrArg₂ (· / ·) hl hr)
  | power =>
    obtain rfl := hp rfl
    rw [Operator.apply, Operator.apply, Quantity.pow, Quantity.pow]
    split
    · exact .ok (power_alike hl r.value)
    · exact .error _

namespace Builtin

variable {q q' : Quantity}

lemma plain_sameUpTo (f : Builtin) (h : q.Alike q') :
    SameUpTo (fun _ _ => True) (f.plain q) (f.plain q') := by
  rw [plain, plain, Quantity.isDimensionless, Quantity.isDimensionless, h]
  split
  · exact .ok trivial
  · exact .error _

lemma elementary_sameUpTo (f : Builtin) (g : Float → Float) (h : q.Alike q') :
    SameUpTo Quantity.Alike (f.elementary g q) (f.elementary g q') :=
  (f.plain_sameUpTo h).map fun _ _ _ => dimensionless_alike _ _

lemma log_sameUpTo {base base' : Quantity} (h : q.Alike q') (hb : base.Alike base') :
    SameUpTo Quantity.Alike (log.apply [q, base]) (log.apply [q', base']) :=
  (log.plain_sameUpTo h).bind fun _ _ _ => (log.plain_sameUpTo hb).bind fun _ _ _ =>
    .ok (dimensionless_alike _ _)

lemma wrongArity_sameUpTo (f : Builtin) {as bs : List Quantity}
    (h : List.Forall₂ Quantity.Alike as bs) :
    SameUpTo Quantity.Alike (.error (Error.wrongArity f.name f.arity as.length))
      (.error (Error.wrongArity f.name f.arity bs.length)) := by
  rw [h.length_eq]
  exact .error _

lemma apply_sameUpTo (f : Builtin) {as bs : List Quantity} (h : List.Forall₂ Quantity.Alike as bs) :
    SameUpTo Quantity.Alike (f.apply as) (f.apply bs) := by
  have hw := f.wrongArity_sameUpTo h
  cases h with
  | nil => cases f <;> exact hw
  | cons hq h =>
    cases h with
    | nil =>
      cases f with
      | sqrt => exact .ok (power_alike hq 0.5)
      | _ => exact elementary_sameUpTo _ _ hq
    | cons hb h =>
      cases h with
      | nil =>
        cases f with
        | log => exact log_sameUpTo hq hb
        | _ => exact hw
      | cons => cases f <;> exact hw

end Builtin

namespace Phrase

variable {caller : Caller} {p : Phrase} {as : List Phrase}

lemma bind_same {α β : Type} {x : Eval α} {f : α → Eval β} (hx : Relates Eq x x)
    (hf : ∀ a, Relates Eq (f a) (f a)) : Relates Eq (x >>= f) (x >>= f) := by
  refine hx.bind ?_
  rintro a _ rfl
  exact hf a

lemma quantity_same {x : Eval Outcome} (hx : Relates Eq x x) :
    Relates Eq (x >>= quantity) (x >>= quantity) := by
  refine bind_same hx fun o => ?_
  cases o with
  | value q => exact relates_pure rfl
  | signal s => exact relates_throw

/-- A phrase that looks nothing up comes to the same value as well. -/
lemma IsClosed.relates (hp : p.IsClosed) :
    Relates Eq (p.evaluateWith caller) (p.evaluateWith caller) := by
  have ofUnit {α β : Type} (r : Except UnitError α) (f : α → β) :
      Relates Eq (do return f (← Eval.ofUnit r)) (do return f (← Eval.ofUnit r)) :=
    bind_same (relates_ofUnit (.refl r)) fun _ => relates_pure rfl
  induction hp with
  | number => exact bind_same (relates_ofResult (.refl _)) fun _ => relates_pure rfl
  | binary _ _ ihl ihr =>
    exact bind_same (quantity_same ihl) fun l => bind_same (quantity_same ihr) fun r => ofUnit _ _
  | negate _ ih | absolute _ ih | group _ ih =>
    exact bind_same (quantity_same ih) fun _ => relates_pure rfl
  | unit => exact ofUnit _ _
  | measured _ _ ihv ihu =>
    exact bind_same (quantity_same ihv) fun _ => bind_same (quantity_same ihu) fun _ =>
      relates_pure rfl
  | @define x _ _ ih =>
    exact bind_same (quantity_same ih) fun q => bind_same (relates_define x rfl) fun _ =>
      relates_pure rfl
  | defineFunction hp =>
    exact bind_same (relates_defineFunction hp.fixedExponents) fun _ => relates_pure rfl
  | evaluate _ ih | exclude _ ih => exact ih
  | render | newline | exit | quit => exact relates_pure rfl

lemma relates_quantities
    (h : ∀ a ∈ as, Relates Outcome.Alike (a.evaluateWith caller) (a.evaluateWith caller)) :
    Relates (List.Forall₂ Quantity.Alike) (quantitiesWith caller as) (quantitiesWith caller as) := by
  induction as with
  | nil => exact relates_pure .nil
  | cons a as ih =>
    refine (h a (by simp)).quantity.bind fun q r hq => ?_
    exact (ih fun b hb => h b (by simp [hb])).map fun qs rs hs => .cons hq hs

end Phrase

/-- Bodies with fixed exponents, called with arguments that are alike, come to the same up to values. -/
def Eval.Caller.Relates (caller : Caller) : Prop :=
  ∀ {f as bs}, f.body.FixedExponents → List.Forall₂ Quantity.Alike as bs →
    Eval.Relates Quantity.Alike (caller f as) (caller f bs)

lemma Function.relates_apply {caller : Caller} (hc : caller.Relates) {f : Function}
    (hf : ∀ u, f = .user u → u.body.FixedExponents) {as bs : List Quantity}
    (h : List.Forall₂ Quantity.Alike as bs) :
    Relates Quantity.Alike (f.apply caller as) (f.apply caller bs) := by
  cases f with
  | builtin f => exact relates_ofResult (f.apply_sameUpTo h)
  | user u => exact hc (hf u rfl) h

namespace Phrase

variable {caller : Caller} {p : Phrase} {as : List Phrase}

lemma FixedExponents.relatesWith (hc : caller.Relates) (hp : p.FixedExponents) :
    Relates Outcome.Alike (p.evaluateWith caller) (p.evaluateWith caller) := by
  induction hp with
  | number =>
    exact (relates_ofResult (.refl _)).map fun v w _ => .value (dimensionless_alike v w)
  | @binary o l r _ _ hclosed ihl ihr =>
    have apply {q q' r r' : Quantity} (hq : q.Alike q') (hr : r.Alike r') (ho : o = .power → r = r') :
        Relates Outcome.Alike (do return .value (← ofUnit (o.apply q r)))
          (do return .value (← ofUnit (o.apply q' r'))) :=
      (relates_ofUnit (o.apply_sameUpTo hq hr ho)).map fun _ _ h => .value h
    refine ihl.quantity.bind fun q q' hq => ?_
    -- The value of an exponent shows in the dimension, so here it has to be the same.
    by_cases ho : o = .power
    · refine (quantity_same (hclosed ho).relates).bind ?_
      rintro r _ rfl
      exact apply hq rfl fun _ => rfl
    · exact ihr.quantity.bind fun r r' hr => apply hq hr fun h => absurd h ho
  | negate _ ih | absolute _ ih | group _ ih =>
    exact ih.quantity.map fun q r hq => .value hq
  | unit => exact (relates_ofUnit (.refl _)).map fun d e h => .value h
  | measured _ _ ihv ihu =>
    exact ihv.quantity.bind fun q q' hq => ihu.quantity.map fun r r' hr =>
      .value (congrArg₂ (· * ·) hq hr)
  | @access x => exact (relates_access x).map fun q r hq => .value hq
  | @call f as _ ih =>
    refine (relates_callee f).bind ?_
    rintro g _ ⟨rfl, hg⟩
    refine (relates_quantities ih).bind fun qs rs hs => ?_
    exact (g.relates_apply hc hg hs).map fun q r hq => .value hq
  | @define x p _ ih =>
    refine ih.quantity.bind fun q r hq => ?_
    exact (relates_define x hq).bind fun _ _ _ => relates_pure (.signal _)
  | @defineFunction f xs p hp =>
    exact (relates_defineFunction hp).bind fun _ _ _ => relates_pure (.signal _)
  | evaluate _ ih | exclude _ ih => exact ih
  | render | newline | exit | quit => exact relates_pure (.signal _)

lemma ofEntries_alike {entries entries' : List (String × Quantity)}
    (h : List.Forall₂ (fun e e' => e.1 = e'.1 ∧ e.2.Alike e'.2) entries entries') :
    Frame.Alike (Bindings.ofEntries entries) (Bindings.ofEntries entries') := by
  have fold {f g : Frame} (hf : f.Alike g) :
      Frame.Alike (entries.foldl (fun b (x, q) => Bindings.insert b x q) f)
        (entries'.foldl (fun b (x, q) => Bindings.insert b x q) g) := by
    induction h generalizing f g with
    | nil => exact hf
    | @cons e e' _ _ he _ ih =>
      obtain ⟨x, q⟩ := e
      obtain ⟨_, r⟩ := e'
      obtain ⟨rfl, hq⟩ := he
      exact ih (hf.insert x hq)
  exact fold fun _ => rfl

lemma zip_alike (xs : List String) {as bs : List Quantity} (h : List.Forall₂ Quantity.Alike as bs) :
    List.Forall₂ (fun e e' : String × Quantity => e.1 = e'.1 ∧ e.2.Alike e'.2) (xs.zip as)
      (xs.zip bs) := by
  induction h generalizing xs with
  | nil => simp
  | cons hq _ ih =>
    cases xs with
    | nil => exact .nil
    | cons x xs => exact .cons ⟨rfl, hq⟩ (ih xs)

lemma relates_enter {run : Phrase → Eval Outcome}
    (hr : ∀ {p}, p.FixedExponents → Relates Outcome.Alike (run p) (run p)) :
    Caller.Relates (enter run) := by
  intro f as bs hf h
  rw [enter, enter, h.length_eq]
  split
  · exact (hr hf).quantity.within (ofEntries_alike (zip_alike f.parameters h))
  · exact relates_throw

lemma FixedExponents.relates (hp : p.FixedExponents) (n : Nat) :
    Relates Outcome.Alike (p.run n) (p.run n) := by
  induction n generalizing p with
  | zero => exact hp.relatesWith fun _ _ => relates_throw
  | succ n ih => exact hp.relatesWith (relates_enter fun hp => ih hp)

/-- If no exponent, in the phrase or in the body of a function, looks anything up, then in environments
that are alike the phrase comes to the same error or to results of the same dimension, and leaves the
environments alike, however deep calls may nest. So it terminates in both or in neither. -/
theorem run_alike {p : Phrase} {a b : Environment} (hp : p.FixedExponents) (he : a.FixedExponents)
    (h : a.Alike b) :
    (∀ n, SameUpTo Outcome.Alike (p.run n a).1 (p.run n b).1 ∧
      (p.run n a).2.Alike (p.run n b).2 ∧ (p.run n a).2.FixedExponents) ∧
    (p.Terminates a ↔ p.Terminates b) := by
  have hn (n : Nat) := hp.relates n a b h he
  exact ⟨hn, exists_congr fun n => not_congr ((hn n).1.eq_error_iff _)⟩

theorem square_run_alike :
    let p := Phrase.call "square" [.access "y"]
    let square : UserFunction :=
      { name := "square", parameters := ["x"], body := .binary .power (.access "x") (.number "2") }
    let env (v : Float) : Environment :=
      { globals := [("y", ⟨v, { metre := 1 }⟩)], functions := [("square", .user square)] }
    p.FixedExponents ∧ (env 3).FixedExponents ∧ (env 3).Alike (env 5) ∧
      SameUpTo Outcome.Alike (p.run 1 (env 3)).1 (p.run 1 (env 5)).1 ∧
      ∃ q, (p.run 1 (env 3)).1 = .ok (.value q) ∧ q.dimension = { metre := 2 } := by
  intro p square env
  have hp : p.FixedExponents := .call fun a ha => List.mem_singleton.mp ha ▸ .access
  have he : (env 3).FixedExponents := by
    intro name f h
    have hf : f = square := by
      rw [Bindings.get?_cons] at h
      split at h
      · cases h
        rfl
      · contradiction
    subst hf
    exact .binary .access .number fun _ => .number
  have hf (v w : Float) : Frame.Alike (env v).globals (env w).globals := by
    intro x
    rw [Bindings.get?_cons, Bindings.get?_cons]
    split <;> rfl
  have ha : (env 3).Alike (env 5) := ⟨.nil, hf 3 5, rfl⟩
  have hr : (p.run 1 (env 3)).1 = .ok (.value (Quantity.power ⟨3, { metre := 1 }⟩ 2)) := by
    with_unfolding_all rfl
  exact ⟨hp, he, ha, ((run_alike hp he ha).1 1).1, _, hr, by decide +kernel⟩

end Phrase

end QuantityCalculator
