import Mathlib.Tactic.Ring
import QuantityCalculator.Proofs.Reading.Accepts
import QuantityCalculator.Proofs.Reading.Shape
import QuantityCalculator.Proofs.Subphrase

/-!
The paths of a phrase that was read. What an operand needs is given back before the chain that it
begins is charged, so that a path can be as long as the square of the charges.
-/

namespace QuantityCalculator

namespace Phrase

/-- The nodes from the root to a leaf. -/
inductive Path : Phrase → List Phrase → Prop
  | leaf {p} : p.children = [] → Path p [p]
  | step {p q path} : q ∈ p.children → Path q path → Path p (p :: path)

def isNesting : Phrase → Bool
  | binary o _ _ => o ≠ .power
  | negate _ | absolute _ | group _ | call .. => true
  | _ => false

def nesting (path : List Phrase) : Nat :=
  path.countP isNesting

def Within (p : Phrase) (n : Nat) : Prop :=
  ∀ path, p.Path path → nesting path ≤ n

variable {p : Phrase} {m n : Nat}

lemma nesting_cons (p : Phrase) (path : List Phrase) :
    nesting (p :: path) = nesting path + if p.isNesting then 1 else 0 :=
  List.countP_cons

lemma Within.mono (h : p.Within m) (hmn : m ≤ n) : p.Within n :=
  fun path hp => (h path hp).trans hmn

lemma within_of_children (h : ∀ q ∈ p.children, q.Within n) :
    p.Within (n + if p.isNesting then 1 else 0) := by
  intro path hp
  cases hp with
  | leaf =>
    rw [nesting_cons]
    exact Nat.add_le_add_right (Nat.zero_le n) _
  | step hq hp =>
    rw [nesting_cons]
    exact Nat.add_le_add_right (h _ hq _ hp) _

lemma within_of_nesting (h : ∀ q ∈ p.children, q.Within n) : p.Within (n + 1) := by
  apply (within_of_children h).mono
  split <;> omega

lemma within_of_not_nesting (hp : p.isNesting = false) (h : ∀ q ∈ p.children, q.Within n) :
    p.Within n := by
  simpa [hp] using within_of_children h

lemma within_of_leaf (hq : p.children = []) (hp : p.isNesting = false) : p.Within n :=
  within_of_not_nesting hp (by simp [hq])

end Phrase

namespace Grammar

open Parse Phrase

/-- Where what stands to the left of a rule has at most `n` nodes on a path, `k` charges admit this
many. -/
def Rule.reach (n k : Nat) : Rule → Nat
  | .expression => k ^ 2
  | .sumAfter _ | .productAfter _ => max (n + k) (k ^ 2 + 1)
  | .term => k ^ 2 + k + 1
  | .unary | .power | .operand => k ^ 2 + 1
  | .argumentsAfter .. => max n (k ^ 2) + 1

/-- Under `k` charges a text is read as a phrase, as a line or as an expression alone. -/
inductive Needs (s : String) : Phrase → Nat → Prop
  | line {p k} : Derivable s p k → Needs s p k
  | expression {ts e p k} : (Cursor.ofText s).tokens = ts ++ [e] → e.kind = .endOfInput →
      Derives .expression ts p k → Needs s p k
  | render {path} : Rendering (Cursor.ofText s).tokens → Needs s (.render path) 0

variable {r : Rule} {ts : List Token} {p l q : Phrase} {o : Operator} {j k n : Nat} {s : String}

lemma square_succ (k : Nat) : (k + 1) ^ 2 = k ^ 2 + 2 * k + 1 := by
  ring

lemma squares_le (j k : Nat) : j ^ 2 ≤ max j k ^ 2 ∧ k ^ 2 ≤ max j k ^ 2 :=
  ⟨Nat.pow_le_pow_left (Nat.le_max_left ..) 2, Nat.pow_le_pow_left (Nat.le_max_right ..) 2⟩

lemma within_binary (hl : l.Within n) (hq : q.Within n) : (binary o l q).Within (n + 1) :=
  within_of_nesting (by simpa [children] using ⟨hl, hq⟩)

lemma reach_chain (hj : q.Within (j ^ 2 + j + 1)) (hl : l.Within n)
    (hp : ∀ m, (binary o l q).Within m → p.Within (max (m + k) (k ^ 2 + 1))) :
    p.Within (max (n + (max j k + 1)) ((max j k + 1) ^ 2 + 1)) := by
  have hb : (binary o l q).Within (max n (j ^ 2 + j + 1) + 1) :=
    within_binary (hl.mono (Nat.le_max_left ..)) (hj.mono (Nat.le_max_right ..))
  obtain ⟨hj, hk⟩ := squares_le j k
  have hs := square_succ (max j k)
  exact (hp _ hb).mono (by omega)

lemma Derives.within (h : Derives r ts p k) (hg : ∀ q ∈ r.given, q.Within n) :
    p.Within (r.reach n k) := by
  induction h generalizing n with
  | @expression _ _ l p j k _ _ ihl ihp =>
    have hl := ihl (n := 0) (by simp [Rule.given])
    have hp := ihp (by simpa [Rule.given] using hl)
    obtain ⟨hj, hk⟩ := squares_le j k
    have hs := square_succ (max j k)
    simp only [Rule.reach] at hp ⊢
    exact hp.mono (by omega)
  | sumEnd | productEnd =>
    have hp := hg _ (List.mem_singleton_self _)
    exact hp.mono (Nat.le_max_left ..)
  | sumNext _ _ _ ihq ihp =>
    have hq := ihq (n := 0) (by simp [Rule.given])
    exact reach_chain hq (hg _ (List.mem_singleton_self _)) fun m hm =>
      ihp (by simpa [Rule.given] using hm)
  | productNext _ _ _ ihq ihp =>
    have hq := ihq (n := 0) (by simp [Rule.given])
    have hl := hg _ (List.mem_singleton_self _)
    exact reach_chain (hq.mono (by simp [Rule.reach])) hl fun m hm =>
      ihp (by simpa [Rule.given] using hm)
  | @term _ _ l p j k _ _ ihl ihp =>
    have hl := ihl (n := 0) (by simp [Rule.given])
    have hp := ihp (by simpa [Rule.given] using hl)
    obtain ⟨hj, hk⟩ := squares_le j k
    simp only [Rule.reach] at hp ⊢
    exact hp.mono (by omega)
  | @minus _ _ p k _ _ ih =>
    have hp := ih (n := 0) (by simp [Rule.given])
    have hs := square_succ k
    apply (within_of_nesting (by simpa [children] using hp)).mono
    simp only [Rule.reach]
    omega
  | unary _ ih | power _ ih => exact ih (n := 0) (by simp [Rule.given])
  | @raised _ _ _ b e j k _ _ _ ihb ihe =>
    have hb := ihb (n := 0) (by simp [Rule.given])
    have he := ihe (n := 0) (by simp [Rule.given])
    obtain ⟨hj, hk⟩ := squares_le j (k + 1)
    have hs := square_succ k
    refine within_of_not_nesting rfl ?_
    simpa [children] using ⟨hb.mono (by simp only [Rule.reach]; omega),
      he.mono (by simp only [Rule.reach]; omega)⟩
  | number | access => exact within_of_leaf rfl rfl
  | measured | quoted =>
    refine within_of_not_nesting rfl ?_
    simpa [children] using ⟨within_of_leaf rfl rfl, within_of_leaf rfl rfl⟩
  | callEmpty => exact within_of_nesting (n := 0) (by simp [children])
  | call _ _ _ ih =>
    have hp := ih (n := 0) (by simp [Rule.given])
    simpa [Rule.reach] using hp
  | lastArgument _ _ ih =>
    have ha := ih (n := 0) (by simp [Rule.given])
    refine within_of_nesting fun q hq => ?_
    obtain hq | rfl := by simpa [children] using hq
    · exact (hg q hq).mono (Nat.le_max_left ..)
    · exact ha.mono (Nat.le_max_right ..)
  | @nextArgument _ f as a p _ _ j k _ _ _ iha ihp =>
    have ha := iha (n := 0) (by simp [Rule.given])
    obtain ⟨hj, hk⟩ := squares_le j k
    have hp := ihp (n := max n (j ^ 2)) fun q hq => by
      obtain hq | rfl := by simpa [Rule.given] using hq
      · exact (hg q hq).mono (Nat.le_max_left ..)
      · exact ha.mono (Nat.le_max_right ..)
    simp only [Rule.reach] at hp ⊢
    exact hp.mono (by omega)
  | group _ _ _ ih | absolute _ _ _ ih =>
    have hp := ih (n := 0) (by simp [Rule.given])
    exact within_of_nesting (by simpa [children, Rule.reach] using hp)

lemma Derives.within_whole (h : Derives .expression ts p k) : p.Within (k ^ 2) :=
  h.within (n := 0) (by simp [Rule.given])

lemma Statement.within (h : Statement ts p k) : p.Within (k ^ 2) := by
  cases h with
  | expression h => exact h.within_whole
  | define _ _ h | defineFunction _ h =>
    exact within_of_not_nesting rfl (by simpa [children] using h.within_whole)

lemma Line.within (h : Line ts p k) : p.Within (k ^ 2) := by
  cases h with
  | statement h | evaluate _ h | exclude _ h =>
    exact within_of_not_nesting rfl (by simpa [children] using h.within)
  | newline | exit | quit => exact within_of_leaf rfl rfl

lemma Needs.within (h : Needs s p k) : p.Within (k ^ 2) := by
  cases h with
  | line h =>
    obtain ⟨ts, e, -, -, hl⟩ := h
    exact hl.within
  | expression _ _ h => exact h.within_whole
  | render => exact within_of_leaf rfl rfl

lemma needs_of_parse (h : Phrase.parse s = .ok p) : ∃ k ≤ limit, Needs s p k := by
  obtain ⟨k, hd, hk⟩ | ⟨hr, path, rfl⟩ := derivable_or_render h
  · exact ⟨k, hk, .line hd⟩
  · exact ⟨0, Nat.zero_le _, .render hr⟩

lemma needs_of_parseExpression (h : Phrase.parseExpression s = .ok p) :
    ∃ k ≤ limit, Needs s p k := by
  rcases hx : onlyExpression (.ofText s) with ⟨r, s'⟩
  obtain rfl : r = .ok p := by simpa [Phrase.parseExpression, hx] using h
  obtain ⟨hw, he⟩ := ok_of_end hx
  obtain ⟨ts, k, hc, hp⟩ := sound_wholeExpression (Nat.zero_le _) hw
  obtain ⟨e, ht, hk⟩ := tokens_of_consumes hc (fun t ht => (hp.kind_ne ht).2) he
  exact ⟨k, by simpa [Parser.ofText] using hc.depth_le, .expression ht hk hp⟩

lemma needs_of_read (h : Phrase.parse s = .ok p ∨ Phrase.parseExpression s = .ok p) :
    ∃ k ≤ limit, Needs s p k := by
  rcases h with h | h
  · exact needs_of_parse h
  · exact needs_of_parseExpression h

end Grammar

end QuantityCalculator
