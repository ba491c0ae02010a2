import Mathlib.Tactic.Lemma
import QuantityCalculator.Line.Phrase

/-!
The phrases inside a phrase, and induction over them.
-/

namespace QuantityCalculator.Phrase

/-- Induction over phrases, where the arguments of a call are phrases as well. -/
@[elab_as_elim]
theorem induction {P : Phrase → Prop} (number : ∀ s, P (.number s))
    (binary : ∀ o l r, P l → P r → P (.binary o l r)) (negate : ∀ p, P p → P (.negate p))
    (absolute : ∀ p, P p → P (.absolute p)) (group : ∀ p, P p → P (.group p))
    (unit : ∀ fs, P (.unit fs)) (measured : ∀ v u, P v → P u → P (.measured v u))
    (access : ∀ x, P (.access x)) (call : ∀ f as, (∀ a ∈ as, P a) → P (.call f as))
    (define : ∀ x p, P p → P (.define x p))
    (defineFunction : ∀ f xs p, P p → P (.defineFunction f xs p))
    (evaluate : ∀ p, P p → P (.evaluate p)) (exclude : ∀ p, P p → P (.exclude p))
    (render : ∀ path, P (.render path)) (newline : P .newline) (exit : P .exit) (quit : P .quit)
    (p : Phrase) : P p :=
  @Phrase.rec P (fun as => ∀ a ∈ as, P a) number binary negate absolute group unit measured access call
    define defineFunction evaluate exclude render newline exit quit (by simp)
    (fun _ _ ha has => List.forall_mem_cons.mpr ⟨ha, has⟩) p

def children : Phrase → List Phrase
  | binary _ l r => [l, r]
  | negate p | absolute p | group p => [p]
  | measured v u => [v, u]
  | call _ as => as
  | define _ p | defineFunction _ _ p => [p]
  | evaluate p | exclude p => [p]
  | _ => []

/-- A phrase occurs in itself and in every phrase with a child that it occurs in. -/
inductive Occurs (q : Phrase) : Phrase → Prop
  | self : Occurs q q
  | inside {p c} : c ∈ p.children → Occurs q c → Occurs q p

def DefinesVariable (p : Phrase) (x : String) : Prop :=
  ∃ body, (define x body).Occurs p

def DefinesFunction (p : Phrase) (f : String) : Prop :=
  ∃ parameters body, (defineFunction f parameters body).Occurs p

structure DefinesNothing (p : Phrase) : Prop where
  noVariable : ∀ x, ¬ p.DefinesVariable x
  noFunction : ∀ f, ¬ p.DefinesFunction f

def UnitFree (p : Phrase) : Prop :=
  ∀ factors, ¬ (unit factors).Occurs p

variable {p q r c : Phrase} {x f : String}

lemma occurs_iff : q.Occurs p ↔ q = p ∨ ∃ c ∈ p.children, q.Occurs c := by
  constructor
  · intro h
    cases h with
    | self => exact .inl rfl
    | inside hc h => exact .inr ⟨_, hc, h⟩
  · rintro (rfl | ⟨c, hc, h⟩)
    · exact .self
    · exact .inside hc h

lemma occurs_leaf (hp : p.children = []) (h : q.Occurs p) : q = p := by
  simpa [occurs_iff (p := p), hp] using h

lemma occurs_node (hp : p.children = [c]) (hc : c.children = []) (h : q.Occurs p) :
    q = p ∨ q = c := by
  rw [occurs_iff, hp] at h
  exact h.imp_right fun ⟨d, hd, h⟩ => occurs_leaf hc (List.mem_singleton.mp hd ▸ h)

lemma Occurs.trans (h : r.Occurs q) (h' : q.Occurs p) : r.Occurs p := by
  induction h' with
  | self => exact h
  | inside hc _ ih => exact .inside hc ih

lemma UnitFree.child (h : p.UnitFree) (hc : c ∈ p.children) : c.UnitFree :=
  fun factors hf => h factors (.inside hc hf)

lemma unitFree_of_children (hp : ∀ factors, unit factors ≠ p) (hc : ∀ c ∈ p.children, c.UnitFree) :
    p.UnitFree := by
  intro factors h
  cases h with
  | self => exact hp _ rfl
  | inside hm h => exact hc _ hm factors h

lemma DefinesVariable.inside (hc : c ∈ p.children) (h : c.DefinesVariable x) : p.DefinesVariable x :=
  have ⟨body, hb⟩ := h
  ⟨body, .inside hc hb⟩

lemma DefinesFunction.inside (hc : c ∈ p.children) (h : c.DefinesFunction f) : p.DefinesFunction f :=
  have ⟨parameters, body, hb⟩ := h
  ⟨parameters, body, .inside hc hb⟩

lemma DefinesNothing.child (h : p.DefinesNothing) (hc : c ∈ p.children) : c.DefinesNothing :=
  ⟨fun x hx => h.noVariable x (hx.inside hc), fun f hf => h.noFunction f (hf.inside hc)⟩

end QuantityCalculator.Phrase
