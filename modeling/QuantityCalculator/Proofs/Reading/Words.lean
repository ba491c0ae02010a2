import QuantityCalculator.Proofs.Reading.Accepts
import QuantityCalculator.Proofs.Reading.Shape
import QuantityCalculator.Proofs.Scanning.Tiling
import QuantityCalculator.Proofs.Subphrase

/-!
The words of a phrase that was read: its literals and names are spelled as the tokens of a text are,
and a unit stands behind a literal and nowhere else.
-/

namespace QuantityCalculator

open Text

def Text.IsName (w : List Char) : Prop :=
  (∃ c ∈ w.head?, isWordStart c) ∧ ∀ c ∈ w, isWord c

/-- How the words of a text are spelled. -/
structure Token.Proper (t : Token) : Prop where
  literal : t.kind = .number → Numeral.Literal t.text.toList
  name : t.kind = .name → IsName t.text.toList

namespace Lexeme

variable {c : Char} {r s : List Char} {afterNumber : Bool}

lemma isName_of_ofCons (h : (ofCons c r).kind = .name) : IsName (ofCons c r).text.toList := by
  rw [ofCons] at h ⊢
  split at h
  · next hs =>
    unfold symbol? at hs
    split at hs <;> cases hs <;> cases h
  · split at h
    · obtain hk | hk := kind_star r <;> rw [hk] at h <;> contradiction
    · split at h
      · obtain hk | hk := kind_quoted r <;> rw [hk] at h <;> contradiction
      · split at h
        · next hs ha hq hw =>
          rw [if_neg ha, if_neg hq, if_pos hw, verbatim, String.toList_ofList]
          refine ⟨⟨c, ?_, hw⟩, fun d hd => List.mem_takeWhile_imp hd⟩
          simp [isWord_of_isWordStart hw]
        · cases h

lemma isName_of_kind (h : (ofChars afterNumber s).kind = .name) :
    IsName (ofChars afterNumber s).text.toList := by
  rcases s with _ | ⟨c, r⟩
  · cases h
  · simp only [ofChars] at h ⊢
    split at h
    · cases h
    · split at h
      · cases h
      · exact isName_of_ofCons h

end Lexeme

lemma Cursor.proper_of_mem_tokens (c : Cursor) {t : Token} (ht : t ∈ c.tokens) : t.Proper :=
  forall_mem_tokens (fun _ => ⟨Lexeme.literal_of_kind, Lexeme.isName_of_kind⟩) c t ht

namespace Phrase

def HasProperWords : Phrase → Prop
  | number s => s = "" ∨ Numeral.Literal s.toList
  | measured v _ => ∃ s, v = number s
  | access x => IsName x.toList
  | call f _ => IsName f.toList
  | define x _ => IsName x.toList
  | defineFunction f xs _ => IsName f.toList ∧ ∀ x ∈ xs, IsName x.toList
  | evaluate p | exclude p => ∀ fs, p ≠ unit fs
  | _ => True

def Proper (p : Phrase) : Prop :=
  ∀ q : Phrase, q.Occurs p → q.HasProperWords

variable {p c : Phrase}

lemma Proper.child (h : p.Proper) (hc : c ∈ p.children) : c.Proper :=
  fun q hq => h q (.inside hc hq)

lemma proper_of_children (h : p.HasProperWords) (hc : ∀ c ∈ p.children, c.Proper) : p.Proper := by
  intro q hq
  cases hq with
  | self => exact h
  | inside hm hq => exact hc _ hm q hq

end Phrase

namespace Grammar

open Phrase

variable {r : Rule} {ts us : List Token} {t : Token} {p : Phrase} {k : Nat} {f : String}
  {xs : List String}

def Rule.Proper : Rule → Prop
  | .sumAfter l | .productAfter l => l.Proper
  | .argumentsAfter f as => IsName f.toList ∧ ∀ a ∈ as, a.Proper
  | _ => True

lemma proper_binary {o : Operator} {l q : Phrase} (hl : l.Proper) (hq : q.Proper) :
    (binary o l q).Proper :=
  proper_of_children trivial (by simpa [children] using ⟨hl, hq⟩)

lemma proper_unit (fs : List Factor) : (unit fs).Proper :=
  proper_of_children trivial (by simp [children])

lemma proper_number {s : String} (h : s = "" ∨ Numeral.Literal s.toList) : (number s).Proper :=
  proper_of_children h (by simp [children])

lemma proper_measured {s : String} (h : s = "" ∨ Numeral.Literal s.toList) (fs : List Factor) :
    (measured (number s) (unit fs)).Proper :=
  proper_of_children ⟨s, rfl⟩ (by simpa [children] using ⟨proper_number h, proper_unit fs⟩)

lemma Derives.proper (h : Derives r ts p k) (ht : ∀ t ∈ ts, t.Proper) (hr : r.Proper) : p.Proper := by
  induction h with
  | expression _ _ ihl ihp | term _ _ ihl ihp =>
    rw [List.forall_mem_append] at ht
    exact ihp ht.2 (ihl ht.1 trivial)
  | sumEnd | productEnd => exact hr
  | sumNext _ _ _ ihq ihp | productNext _ _ _ ihq ihp =>
    rw [List.forall_mem_cons, List.forall_mem_append] at ht
    exact ihp ht.2.2 (proper_binary hr (ihq ht.2.1 trivial))
  | minus _ _ ih =>
    rw [List.forall_mem_cons] at ht
    exact proper_of_children trivial (by simpa [children] using ih ht.2 trivial)
  | unary _ ih | power _ ih => exact ih ht trivial
  | raised _ _ _ ihb ihe =>
    rw [List.forall_mem_append, List.forall_mem_cons] at ht
    exact proper_binary (ihb ht.1 trivial) (ihe ht.2.2 trivial)
  | number hk => exact proper_number (.inr ((ht _ List.mem_cons_self).literal hk))
  | measured hk => exact proper_measured (.inr ((ht _ List.mem_cons_self).literal hk)) _
  | quoted => exact proper_measured (.inl rfl) _
  | access hk =>
    exact proper_of_children ((ht _ List.mem_cons_self).name hk) (by simp [children])
  | callEmpty hk =>
    exact proper_of_children ((ht _ List.mem_cons_self).name hk) (by simp [children])
  | call hk _ _ ih =>
    rw [List.forall_mem_cons, List.forall_mem_cons] at ht
    exact ih ht.2.2 ⟨ht.1.name hk, by simp⟩
  | lastArgument _ _ ih =>
    rw [List.forall_mem_append] at ht
    refine proper_of_children hr.1 ?_
    simpa [children, or_imp, forall_and] using ⟨hr.2, ih ht.1 trivial⟩
  | nextArgument _ _ _ iha ihp =>
    rw [List.forall_mem_append, List.forall_mem_cons] at ht
    refine ihp ht.2.2 ⟨hr.1, ?_⟩
    simpa [or_imp, forall_and] using ⟨hr.2, iha ht.1 trivial⟩
  | group _ _ _ ih | absolute _ _ _ ih =>
    rw [List.forall_mem_cons, List.forall_mem_append] at ht
    exact proper_of_children trivial (by simpa [children] using ih ht.2.1 trivial)

lemma Derives.ne_unit (h : Derives r ts p k) (hr : ∀ q ∈ r.given, ∀ fs, q ≠ unit fs) :
    ∀ fs, p ≠ unit fs := by
  induction h with
  | expression _ _ ihl ihp | term _ _ ihl ihp =>
    have hl := ihl (by simp [Rule.given])
    exact ihp (by simpa [Rule.given] using hl)
  | sumEnd | productEnd => exact hr _ (List.mem_singleton_self _)
  | sumNext _ _ _ _ ihp | productNext _ _ _ _ ihp => exact ihp (by simp [Rule.given])
  | unary _ ih | power _ ih => exact ih (by simp [Rule.given])
  | call _ _ _ ih => exact ih (by simp [Rule.given])
  | nextArgument _ _ _ iha ihp =>
    have ha := iha (by simp [Rule.given])
    refine ihp fun q hq => ?_
    obtain hq | rfl := by simpa [Rule.given] using hq
    · exact hr q hq
    · exact ha
  | _ => simp

lemma Parameters.names (h : Parameters ts xs) (ht : ∀ t ∈ ts, t.Proper) :
    ∀ x ∈ xs, IsName x.toList := by
  induction h with
  | last hk => simpa using (ht _ List.mem_cons_self).name hk
  | more hk _ _ ih =>
    simp only [List.forall_mem_cons] at ht ⊢
    exact ⟨ht.1.name hk, ih ht.2.2⟩

lemma Head.names (h : Head ts f xs) (ht : ∀ t ∈ ts, t.Proper) :
    IsName f.toList ∧ ∀ x ∈ xs, IsName x.toList := by
  cases h with
  | plain hk => exact ⟨(ht _ List.mem_cons_self).name hk, by simp⟩
  | parameters hk _ hp =>
    rw [List.forall_mem_cons, List.forall_mem_cons, List.forall_mem_append] at ht
    exact ⟨ht.1.name hk, hp.names ht.2.2.1⟩

lemma Statement.proper (h : Statement ts p k) (ht : ∀ t ∈ ts, t.Proper) : p.Proper := by
  cases h with
  | expression h => exact h.proper ht trivial
  | define hk _ h =>
    rw [List.forall_mem_cons, List.forall_mem_cons] at ht
    exact proper_of_children (ht.1.name hk) (by simpa [children] using h.proper ht.2.2 trivial)
  | defineFunction hh h =>
    rw [List.forall_mem_append] at ht
    exact proper_of_children (hh.names ht.1) (by simpa [children] using h.proper ht.2 trivial)

lemma Statement.ne_unit (h : Statement ts p k) (fs : List Factor) : p ≠ unit fs := by
  cases h with
  | expression h => exact h.ne_unit (by simp [Rule.given]) fs
  | define | defineFunction => simp

lemma Line.proper (h : Line ts p k) (ht : ∀ t ∈ ts, t.Proper) : p.Proper := by
  cases h with
  | statement h => exact proper_of_children h.ne_unit (by simpa [children] using h.proper ht)
  | evaluate _ h | exclude _ h =>
    rw [List.forall_mem_cons, List.forall_mem_cons] at ht
    exact proper_of_children h.ne_unit (by simpa [children] using h.proper ht.2.2)
  | newline | exit | quit => exact proper_of_children trivial (by simp [children])

end Grammar

lemma Phrase.proper_of_parse {s : String} {p : Phrase} (h : parse s = .ok p) : p.Proper := by
  obtain ⟨k, ⟨ts, e, ht, -, hl⟩, -⟩ | ⟨-, path, rfl⟩ := Grammar.derivable_or_render h
  · refine hl.proper fun t hm => (Cursor.ofText s).proper_of_mem_tokens ?_
    rw [ht]
    exact List.mem_append_left _ hm
  · exact proper_of_children trivial (by simp [children])

end QuantityCalculator
