import Mathlib.Data.List.TakeWhile
import QuantityCalculator.Proofs.Scanning.Tokens

/-!
The text of a number: digits, a fraction or not, a power of ten or not. Any such text is read.
-/

namespace QuantityCalculator.Numeral

open Text Lexeme

def Digits (s : List Char) : Prop :=
  s ≠ [] ∧ ∀ c ∈ s, c.isDigit

inductive Fraction : List Char → Prop
  | none : Fraction []
  | digits {ds} : Digits ds → Fraction ('.' :: ds)

inductive Power : List Char → Prop
  | none : Power []
  | digits {c sign ds} : c = 'e' ∨ c = 'E' → sign = [] ∨ sign = ['+'] ∨ sign = ['-'] → Digits ds →
      Power (c :: (sign ++ ds))

inductive Literal : List Char → Prop
  | mk {ds fs ps} : Digits ds → Fraction fs → Power ps → Literal (ds ++ fs ++ ps)

variable {s w r ds fs ps : List Char}

lemma digits_of_munch (h : Lexeme.digits s = some (w, r)) : Digits w := by
  refine ⟨Munch.run_ne_nil h, ?_⟩
  rw [Lexeme.digits, Munch.run] at h
  split at h
  · contradiction
  · obtain ⟨rfl, -⟩ := by simpa using h
    exact fun c hc => List.mem_takeWhile_imp hc

lemma of_followedBy {a b : Munch} (h : a.followedBy b s = some (w, r)) :
    ∃ u t v, a s = some (u, t) ∧ b t = some (v, r) ∧ w = u ++ v := by
  rw [Munch.followedBy] at h
  split at h
  · contradiction
  · next u t hu =>
    obtain ⟨⟨v, q⟩, hv, he⟩ := Option.map_eq_some_iff.mp h
    obtain ⟨rfl, rfl⟩ := by simpa using he
    exact ⟨u, t, v, hu, hv, rfl⟩

lemma of_one {p : Char → Bool} (h : Munch.one p s = some (w, r)) : ∃ c, w = [c] ∧ p c := by
  rcases s with _ | ⟨c, t⟩
  · contradiction
  · rw [Munch.one] at h
    split at h
    · next hp =>
      obtain ⟨rfl, -⟩ := by simpa using h
      exact ⟨c, rfl, hp⟩
    · contradiction

lemma of_optional {a : Munch} (h : Munch.optional a s = some (w, r)) : w = [] ∨ a s = some (w, r) := by
  rcases ha : a s with _ | ⟨u, t⟩
  · left
    simp [Munch.optional, ha] at h
    exact h.1
  · right
    simpa [Munch.optional, ha] using h

lemma fraction_of_munch (h : Munch.optional Lexeme.fraction s = some (w, r)) : Fraction w := by
  obtain rfl | h := of_optional h
  · exact .none
  · obtain ⟨u, t, v, hu, hv, rfl⟩ := of_followedBy h
    obtain ⟨c, rfl, hc⟩ := of_one hu
    obtain rfl : c = '.' := by simpa using hc
    exact .digits (digits_of_munch hv)

lemma sign_of_munch (h : Munch.optional Lexeme.sign s = some (w, r)) :
    w = [] ∨ w = ['+'] ∨ w = ['-'] := by
  obtain rfl | hs := of_optional h
  · exact .inl rfl
  · obtain ⟨c, rfl, hc⟩ := of_one hs
    exact .inr (by simpa using hc)

lemma power_of_munch (h : Munch.optional Lexeme.power s = some (w, r)) : Power w := by
  obtain rfl | h := of_optional h
  · exact .none
  · obtain ⟨_, _, ds, hu, hd, rfl⟩ := of_followedBy h
    obtain ⟨_, _, sign, ho, hs, rfl⟩ := of_followedBy hu
    obtain ⟨c, rfl, hc⟩ := of_one ho
    rw [List.append_assoc, List.singleton_append]
    exact .digits (by simpa using hc) (sign_of_munch hs) (digits_of_munch hd)

lemma literal_of_munch (h : Lexeme.number s = some (w, r)) : Literal w := by
  obtain ⟨u, t, ps, hu, hp, rfl⟩ := of_followedBy h
  obtain ⟨ds, t, fs, hd, hf, rfl⟩ := of_followedBy hu
  exact .mk (digits_of_munch hd) (fraction_of_munch hf) (power_of_munch hp)

lemma Digits.span (h : Digits ds) (hr : ∀ c ∈ r.head?, ¬ c.isDigit) :
    (ds ++ r).takeWhile Char.isDigit = ds ∧ (ds ++ r).dropWhile Char.isDigit = r :=
  span_append h.2 fun c hc => by simpa using hr c hc

lemma Power.head (h : Power ps) : ∀ c ∈ ps.head?, ¬ c.isDigit ∧ c ≠ '.' := by
  cases h with
  | none => simp
  | digits hc => obtain rfl | rfl := hc <;> simp

lemma Digits.splitSign_append (h : Digits ds) (r : List Char) :
    splitSign (ds ++ r) = (false, ds ++ r) := by
  obtain ⟨hn, hd⟩ := h
  obtain ⟨c, ds, rfl⟩ := List.exists_cons_of_ne_nil hn
  have hc := hd c (by simp)
  unfold splitSign
  split
  · next he =>
    obtain ⟨rfl, -⟩ := List.cons.inj he
    contradiction
  · next he =>
    obtain ⟨rfl, -⟩ := List.cons.inj he
    contradiction
  · rfl

lemma Literal.splitSign (h : Literal w) : splitSign w = (false, w) := by
  obtain @⟨ds, fs, ps, hd, -, -⟩ := h
  rw [List.append_assoc]
  exact hd.splitSign_append (fs ++ ps)

lemma Power.read (h : Power ps) : (readPower ps).isSome := by
  cases h with
  | none => rfl
  | @digits c sign ds hc hs hd =>
    have hp : ∃ b, splitSign (sign ++ ds) = (b, ds) := by
      obtain rfl | rfl | rfl := hs
      · exact ⟨false, by simpa using hd.splitSign_append []⟩
      · exact ⟨false, rfl⟩
      · exact ⟨true, rfl⟩
    obtain ⟨b, hb⟩ := hp
    have ha : ds.all Char.isDigit := by simpa using hd.2
    simp [readPower, hb, hc, hd.1, ha]

lemma readDecimal_of_literal (h : Literal w) : (readDecimal w).isSome := by
  obtain @⟨ds, fs, ps, hd, hf, hp⟩ := h
  have hi := hp.read
  cases hf with
  | none =>
    obtain ⟨ht, hr⟩ := hd.span fun c hc => (hp.head c hc).1
    rw [List.append_nil, readDecimal, ht, hr]
    cases hp with
    | none => simp [hd.1, readPower]
    | digits hc => obtain rfl | rfl := hc <;> simp [hd.1, hi]
  | @digits fs hf =>
    obtain ⟨ht, hr⟩ := hd.span (r := '.' :: (fs ++ ps)) (by simp)
    obtain ⟨ht', hr'⟩ := hf.span fun c hc => (hp.head c hc).1
    rw [List.append_assoc, List.cons_append, readDecimal, ht, hr]
    simp [ht', hr', hd.1, hi]

lemma read_of_literal {s : String} (h : Literal s.toList) : (read s).isSome := by
  have hu : (readUnsigned s.toList).isSome := by
    rw [readUnsigned]
    split
    · rfl
    · rfl
    · rfl
    · simpa using readDecimal_of_literal h
  simpa [read, h.splitSign] using hu

end QuantityCalculator.Numeral

namespace QuantityCalculator

lemma Lexeme.literal_of_kind {afterNumber : Bool} {s : List Char}
    (h : (ofChars afterNumber s).kind = .number) :
    Numeral.Literal (ofChars afterNumber s).text.toList := by
  rcases s with _ | ⟨c, r⟩
  · contradiction
  · simp only [ofChars] at h ⊢
    split at h
    · contradiction
    · split at h
      · next w t hw => simpa [verbatim] using Numeral.literal_of_munch hw
      · exact absurd h (kind_ofCons c r).2.2

lemma Cursor.literal_of_mem_tokens (c : Cursor) {t : Token} (ht : t ∈ c.tokens)
    (hk : t.kind = .number) : Numeral.Literal t.text.toList :=
  forall_mem_tokens (P := fun t => t.kind = .number → Numeral.Literal t.text.toList)
    (fun _ => Lexeme.literal_of_kind) c t ht hk

end QuantityCalculator
