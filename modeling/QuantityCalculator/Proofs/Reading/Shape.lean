import QuantityCalculator.Evaluation.Evaluate
import QuantityCalculator.Proofs.Reading.Statement
import QuantityCalculator.Proofs.Scanning.Literals

/-!
The phrases that a line can be read as: definitions stand at statement level, commands at the root,
literals can be read and units are known.
-/

namespace QuantityCalculator

namespace Phrase

inductive IsExpression : Phrase → Prop
  | number {s} : s = "" ∨ (Numeral.read s).isSome → IsExpression (.number s)
  | binary {o l r} : IsExpression l → IsExpression r → IsExpression (.binary o l r)
  | negate {p} : IsExpression p → IsExpression (.negate p)
  | absolute {p} : IsExpression p → IsExpression (.absolute p)
  | group {p} : IsExpression p → IsExpression (.group p)
  | unit {fs d} : Dimension.ofFactors fs = .ok d → IsExpression (.unit fs)
  | measured {v u} : IsExpression v → IsExpression u → IsExpression (.measured v u)
  | access {x} : IsExpression (.access x)
  | call {f as} : (∀ a ∈ as, IsExpression a) → IsExpression (.call f as)

inductive IsStatement : Phrase → Prop
  | expression {p} : IsExpression p → IsStatement p
  | define {x p} : IsExpression p → IsStatement (.define x p)
  | defineFunction {f xs p} : IsExpression p → IsStatement (.defineFunction f xs p)

inductive IsLine : Phrase → Prop
  | evaluate {p} : IsStatement p → IsLine (.evaluate p)
  | exclude {p} : IsStatement p → IsLine (.exclude p)
  | render {path} : IsLine (.render path)
  | newline : IsLine .newline
  | exit : IsLine .exit
  | quit : IsLine .quit

end Phrase

namespace Grammar

open Parse

def Rule.given : Rule → List Phrase
  | .sumAfter l | .productAfter l => [l]
  | .argumentsAfter _ as => as
  | _ => []

def Readable (ts : List Token) : Prop :=
  ∀ t ∈ ts, t.kind = .number → (Numeral.read t.text).isSome

variable {r : Rule} {ts us : List Token} {p : Phrase} {k : Nat}

lemma readable_append : Readable (ts ++ us) ↔ Readable ts ∧ Readable us := by
  simp only [Readable, List.mem_append, or_imp, forall_and]

lemma readable_cons {t : Token} :
    Readable (t :: ts) ↔ (t.kind = .number → (Numeral.read t.text).isSome) ∧ Readable ts := by
  simp only [Readable, List.mem_cons, or_imp, forall_and, forall_eq]

lemma Resolves.isExpression {text : String} {fs : List Factor} (h : Resolves text fs) :
    (Phrase.unit fs).IsExpression :=
  have ⟨_, _, _, hd⟩ := h
  .unit hd

lemma Derives.isExpression (h : Derives r ts p k) (hr : Readable ts)
    (hg : ∀ q ∈ r.given, q.IsExpression) : p.IsExpression := by
  induction h with
  | expression _ _ ihl ihp | term _ _ ihl ihp =>
    obtain ⟨hl, hp⟩ := readable_append.mp hr
    have hl := ihl hl (by simp [Rule.given])
    exact ihp hp (by simpa [Rule.given] using hl)
  | sumEnd | productEnd => exact hg _ (by simp [Rule.given])
  | sumNext _ _ _ ihq ihp | productNext _ _ _ ihq ihp =>
    obtain ⟨hq, hp⟩ := readable_append.mp (readable_cons.mp hr).2
    have hl := hg _ (List.mem_singleton_self _)
    have hq := ihq hq (by simp [Rule.given])
    exact ihp hp (by simpa [Rule.given] using .binary hl hq)
  | minus _ _ ih => exact .negate (ih (readable_cons.mp hr).2 (by simp [Rule.given]))
  | unary _ ih | power _ ih => exact ih hr (by simp [Rule.given])
  | raised _ _ _ ihb ihe =>
    obtain ⟨hb, he⟩ := readable_append.mp hr
    have he := ihe (readable_cons.mp he).2 (by simp [Rule.given])
    exact .binary (ihb hb (by simp [Rule.given])) he
  | number ht => exact .number (.inr (hr _ (by simp) ht))
  | measured ht _ hs =>
    have hv := hr _ (List.mem_cons_self ..) ht
    exact .measured (.number (.inr hv)) hs.isExpression
  | quoted _ hs => exact .measured (.number (.inl rfl)) hs.isExpression
  | access => exact .access
  | callEmpty => exact .call (by simp)
  | call _ _ _ ih =>
    have hr := (readable_cons.mp (readable_cons.mp hr).2).2
    exact ih hr (by simp [Rule.given])
  | lastArgument _ _ ih =>
    have ha := ih (readable_append.mp hr).1 (by simp [Rule.given])
    refine .call fun a h => ?_
    obtain h | rfl := by simpa using h
    · exact hg a h
    · exact ha
  | nextArgument _ _ _ iha ihp =>
    obtain ⟨ha, hp⟩ := readable_append.mp hr
    have ha := iha ha (by simp [Rule.given])
    refine ihp (readable_cons.mp hp).2 fun a h => ?_
    obtain h | rfl := by simpa [Rule.given] using h
    · exact hg a h
    · exact ha
  | group _ _ _ ih =>
    have hr := (readable_append.mp (readable_cons.mp hr).2).1
    exact .group (ih hr (by simp [Rule.given]))
  | absolute _ _ _ ih =>
    have hr := (readable_append.mp (readable_cons.mp hr).2).1
    exact .absolute (ih hr (by simp [Rule.given]))

lemma Derives.isExpression_whole (h : Derives .expression ts p k) (hr : Readable ts) :
    p.IsExpression :=
  h.isExpression hr (by simp [Rule.given])

lemma Statement.isStatement (h : Statement ts p k) (hr : Readable ts) : p.IsStatement := by
  cases h with
  | expression h => exact .expression (h.isExpression_whole hr)
  | define _ _ h =>
    have hr := (readable_cons.mp (readable_cons.mp hr).2).2
    exact .define (h.isExpression_whole hr)
  | defineFunction _ h =>
    have hr := (readable_append.mp hr).2
    exact .defineFunction (h.isExpression_whole hr)

lemma Line.isLine (h : Line ts p k) (hr : Readable ts) : p.IsLine := by
  cases h with
  | statement h => exact .evaluate (h.isStatement hr)
  | evaluate _ h => exact .evaluate (h.isStatement (readable_cons.mp (readable_cons.mp hr).2).2)
  | exclude _ h => exact .exclude (h.isStatement (readable_cons.mp (readable_cons.mp hr).2).2)
  | newline => exact .newline
  | exit => exact .exit
  | quit => exact .quit

end Grammar

namespace Phrase

open Grammar Parse

lemma readable_ofText (s : String) : Readable (Cursor.ofText s).tokens :=
  fun _ ht hk => Numeral.read_of_literal ((Cursor.ofText s).literal_of_mem_tokens ht hk)

lemma isLine_of_parse {s : String} {p : Phrase} (h : parse s = .ok p) : p.IsLine := by
  rcases hx : line (.ofText s) with ⟨r, s'⟩
  obtain rfl : r = .ok p := by simpa [parse, hx] using h
  obtain ⟨ts, k, hc, hp, -⟩ | ⟨-, path, rfl⟩ := sound_line (Nat.zero_le _) hx
  · have ht : (Cursor.ofText s).tokens = ts ++ s'.tokens := hc.tokens_eq
    exact hp.isLine (readable_append.mp (ht ▸ readable_ofText s)).1
  · exact .render

end Phrase

end QuantityCalculator
