import Mathlib.Data.List.Forall2
import QuantityCalculator.Evaluation.Evaluate
import QuantityCalculator.Proofs.Action

/-!
Two evaluations side by side, in environments whose variables may have other values but the same
dimensions.
-/

namespace QuantityCalculator

/-- The same error, or results that `R` relates. -/
inductive SameUpTo {ε α : Type} (R : α → α → Prop) : Except ε α → Except ε α → Prop
  | ok {a b} : R a b → SameUpTo R (.ok a) (.ok b)
  | error (e) : SameUpTo R (.error e) (.error e)

namespace SameUpTo

variable {ε α β : Type} {R : α → α → Prop} {S : β → β → Prop} {r r' : Except ε α}

lemma refl (r : Except ε α) : SameUpTo Eq r r := by
  cases r with
  | ok => exact .ok rfl
  | error e => exact .error e

lemma eq_error_iff (h : SameUpTo R r r') (e : ε) : r = .error e ↔ r' = .error e := by
  cases h with
  | ok => exact ⟨nofun, nofun⟩
  | error => rfl

lemma map {f g : α → β} (h : SameUpTo R r r') (hf : ∀ a b, R a b → S (f a) (g b)) :
    SameUpTo S (r.map f) (r'.map g) := by
  cases h with
  | ok h => exact .ok (hf _ _ h)
  | error e => exact .error e

lemma bind {f g : α → Except ε β} (h : SameUpTo R r r')
    (hf : ∀ a b, R a b → SameUpTo S (f a) (g b)) : SameUpTo S (r >>= f) (r' >>= g) := by
  cases h with
  | ok h => exact hf _ _ h
  | error e => exact .error e

end SameUpTo

def Quantity.Alike (q r : Quantity) : Prop :=
  q.dimension = r.dimension

inductive Outcome.Alike : Outcome → Outcome → Prop
  | value {q r} : q.Alike r → Alike (.value q) (.value r)
  | signal (s) : Alike (.signal s) (.signal s)

/-- The same names, each with a value of the same dimension. -/
def Frame.Alike (f g : Frame) : Prop :=
  ∀ x, (f.get? x).map Quantity.dimension = (g.get? x).map Quantity.dimension

/-- The same functions, and as many frames, one like the other. -/
structure Environment.Alike (a b : Environment) : Prop where
  locals : List.Forall₂ Frame.Alike a.locals b.locals
  globals : Frame.Alike a.globals b.globals
  functions : a.functions = b.functions

namespace Phrase

/-- Nothing in the phrase is looked up. -/
inductive IsClosed : Phrase → Prop
  | number {s} : IsClosed (.number s)
  | binary {o l r} : IsClosed l → IsClosed r → IsClosed (.binary o l r)
  | negate {p} : IsClosed p → IsClosed (.negate p)
  | absolute {p} : IsClosed p → IsClosed (.absolute p)
  | group {p} : IsClosed p → IsClosed (.group p)
  | unit {fs} : IsClosed (.unit fs)
  | measured {v u} : IsClosed v → IsClosed u → IsClosed (.measured v u)
  | define {x p} : IsClosed p → IsClosed (.define x p)
  | defineFunction {f xs p} : IsClosed p → IsClosed (.defineFunction f xs p)
  | evaluate {p} : IsClosed p → IsClosed (.evaluate p)
  | exclude {p} : IsClosed p → IsClosed (.exclude p)
  | render {path} : IsClosed (.render path)
  | newline : IsClosed .newline
  | exit : IsClosed .exit
  | quit : IsClosed .quit

/-- The exponents in the phrase are closed. -/
inductive FixedExponents : Phrase → Prop
  | number {s} : FixedExponents (.number s)
  | binary {o l r} : FixedExponents l → FixedExponents r → (o = .power → r.IsClosed) →
      FixedExponents (.binary o l r)
  | negate {p} : FixedExponents p → FixedExponents (.negate p)
  | absolute {p} : FixedExponents p → FixedExponents (.absolute p)
  | group {p} : FixedExponents p → FixedExponents (.group p)
  | unit {fs} : FixedExponents (.unit fs)
  | measured {v u} : FixedExponents v → FixedExponents u → FixedExponents (.measured v u)
  | access {x} : FixedExponents (.access x)
  | call {f as} : (∀ a ∈ as, FixedExponents a) → FixedExponents (.call f as)
  | define {x p} : FixedExponents p → FixedExponents (.define x p)
  | defineFunction {f xs p} : FixedExponents p → FixedExponents (.defineFunction f xs p)
  | evaluate {p} : FixedExponents p → FixedExponents (.evaluate p)
  | exclude {p} : FixedExponents p → FixedExponents (.exclude p)
  | render {path} : FixedExponents (.render path)
  | newline : FixedExponents .newline
  | exit : FixedExponents .exit
  | quit : FixedExponents .quit

lemma IsClosed.fixedExponents {p : Phrase} (h : p.IsClosed) : p.FixedExponents := by
  induction h with
  | binary _ hr ihl ihr => exact .binary ihl ihr fun _ => hr
  | _ => constructor <;> assumption

end Phrase

def Environment.FixedExponents (env : Environment) : Prop :=
  ∀ name f, env.functions.get? name = some (.user f) → f.body.FixedExponents

namespace Frame

variable {f g : Frame} {q r : Quantity}

lemma Alike.insert (h : f.Alike g) (x : String) (hq : q.Alike r) :
    Frame.Alike (Bindings.insert f x q) (Bindings.insert g x r) := by
  intro y
  rw [Bindings.get?_insert, Bindings.get?_insert]
  split
  · exact congrArg some hq
  · exact h y

lemma Alike.get? (h : f.Alike g) (x : String) :
    f.get? x = none ∧ g.get? x = none ∨
      ∃ q r, f.get? x = some q ∧ g.get? x = some r ∧ q.Alike r := by
  have hx := h x
  rcases hf : Bindings.get? f x with _ | q <;> rcases hg : Bindings.get? g x with _ | r <;>
    rw [hf, hg] at hx
  · exact .inl ⟨rfl, rfl⟩
  · contradiction
  · contradiction
  · exact .inr ⟨q, r, rfl, rfl, Option.some.inj hx⟩

end Frame

namespace Environment

variable {a b : Environment} {q r : Quantity}

lemma Alike.define (h : a.Alike b) (x : String) (hq : q.Alike r) :
    (a.define x q).Alike (b.define x r) := by
  have hl := h.locals
  rw [Environment.define, Environment.define]
  cases ha : a.locals with
  | nil =>
    rw [ha, List.forall₂_nil_left_iff] at hl
    rw [hl]
    exact ⟨.nil, h.globals.insert x hq, h.functions⟩
  | cons f fs =>
    rw [ha] at hl
    obtain ⟨g, gs, hf, hgs, hb⟩ := List.forall₂_cons_left_iff.mp hl
    rw [hb]
    exact ⟨.cons (hf.insert x hq) hgs, h.globals, h.functions⟩

lemma Alike.defineFunction (h : a.Alike b) (f : UserFunction) :
    (a.defineFunction f).Alike (b.defineFunction f) := by
  refine ⟨h.locals, h.globals, ?_⟩
  rw [Environment.defineFunction, Environment.defineFunction, h.functions]

lemma Alike.push (h : a.Alike b) {f g : Frame} (hf : f.Alike g) : (a.push f).Alike (b.push g) :=
  ⟨.cons hf h.locals, h.globals, h.functions⟩

lemma Alike.pop (h : a.Alike b) : a.pop.Alike b.pop := by
  refine ⟨?_, h.globals, h.functions⟩
  simp only [Environment.pop, ← List.drop_one]
  exact List.forall₂_drop 1 h.locals

lemma findSome?_alike {fs gs : List Frame} (h : List.Forall₂ Frame.Alike fs gs) (x : String) :
    fs.findSome? (·.get? x) = none ∧ gs.findSome? (·.get? x) = none ∨
      ∃ q r, fs.findSome? (·.get? x) = some q ∧ gs.findSome? (·.get? x) = some r ∧ q.Alike r := by
  induction h with
  | nil => exact .inl ⟨rfl, rfl⟩
  | @cons f g fs gs hf _ ih =>
    rw [List.findSome?_cons, List.findSome?_cons]
    obtain ⟨hn, hn'⟩ | ⟨q, r, hq, hr, hd⟩ := hf.get? x
    · rw [hn, hn']
      exact ih
    · rw [hq, hr]
      exact .inr ⟨q, r, rfl, rfl, hd⟩

lemma Alike.lookupVariable (h : a.Alike b) (x : String) :
    SameUpTo Quantity.Alike (a.lookupVariable x) (b.lookupVariable x) := by
  have hl : List.Forall₂ Frame.Alike a.frames b.frames :=
    List.rel_append h.locals (.cons h.globals .nil)
  rw [Environment.lookupVariable, Environment.lookupVariable, get?_eq_findSome?_frames,
    get?_eq_findSome?_frames]
  obtain ⟨hn, hn'⟩ | ⟨q, r, hq, hr, hd⟩ := findSome?_alike hl x
  · rw [hn, hn']
    exact .error _
  · rw [hq, hr]
    exact .ok hd

end Environment

end QuantityCalculator
