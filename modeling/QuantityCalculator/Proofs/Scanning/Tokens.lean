import Mathlib.Data.List.TakeWhile
import QuantityCalculator.Proofs.Grammar.Basic

/-!
The tokens of a text: the end of the input stands last and nowhere else, and a word that is a unit
resolves.
-/

namespace QuantityCalculator

open Text Grammar

namespace Text

lemma toNat_of_isDigit {c : Char} (h : c.isDigit) : 48 ≤ c.toNat ∧ c.toNat ≤ 57 := by
  rw [Char.isDigit, Bool.and_eq_true, decide_eq_true_eq, decide_eq_true_eq] at h
  exact h

lemma isLetter_of_isDigit {c : Char} (h : c.isDigit) : isLetter c = false := by
  have hc := toNat_of_isDigit h
  have hn : c.toNat < 128 := Nat.lt_of_le_of_lt hc.2 (by decide)
  rw [isLetter, if_pos hn, Bool.eq_false_iff]
  intro ha
  have ha : (decide (65 ≤ c.val ∧ c.val ≤ 90) || (97 ≤ c.val && c.val ≤ 122)) = true := ha
  simp only [Bool.or_eq_true, Bool.and_eq_true, decide_eq_true_eq] at ha
  obtain ⟨hl, -⟩ | ⟨hl, -⟩ := ha
  · have hl : 65 ≤ c.toNat := hl
    omega
  · have hl : 97 ≤ c.toNat := hl
    omega

end Text

namespace Lexeme

lemma symbol?_ne {c : Char} {k : Token.Kind} (h : symbol? c = some k) :
    k ≠ .endOfInput ∧ k ≠ .unit ∧ k ≠ .number := by
  unfold symbol? at h
  split at h <;> cases h <;> decide

lemma kind_star (r : List Char) : (star r).kind = .caret ∨ (star r).kind = .asterisk := by
  fun_cases star r
  · exact .inl rfl
  · exact .inr rfl

lemma kind_quoted (r : List Char) : (quoted r).kind = .error ∨ (quoted r).kind = .quotedUnit := by
  rw [quoted]
  split
  · exact .inl rfl
  · exact .inr rfl

lemma kind_ofCons (c : Char) (r : List Char) :
    (ofCons c r).kind ≠ .endOfInput ∧ (ofCons c r).kind ≠ .unit ∧ (ofCons c r).kind ≠ .number := by
  rw [ofCons]
  split
  · next h => exact symbol?_ne h
  · split
    · obtain h | h := kind_star r <;> simp [h]
    · split
      · obtain h | h := kind_quoted r <;> simp [h]
      · split <;> simp [verbatim]

lemma kind_eq_endOfInput_iff (afterNumber : Bool) (s : List Char) :
    (ofChars afterNumber s).kind = .endOfInput ↔ s = [] := by
  rcases s with _ | ⟨c, r⟩
  · simp [ofChars]
  · simp only [ofChars]
    split
    · simp [verbatim]
    · split
      · simp [verbatim]
      · simp [(kind_ofCons c r).1]

lemma unit_of_kind {afterNumber : Bool} {s : List Char} (h : (ofChars afterNumber s).kind = .unit) :
    ∃ w r, unit s = some (w, r) ∧ (ofChars afterNumber s).text = String.ofList w := by
  rcases s with _ | ⟨c, r⟩
  · simp [ofChars] at h
  · simp only [ofChars] at h ⊢
    split at h
    · next w t hu =>
      cases afterNumber
      · contradiction
      · exact ⟨w, t, hu, rfl⟩
    · split at h
      · simp [verbatim] at h
      · exact absurd h (kind_ofCons c r).2.1

end Lexeme

lemma segments_of_letters {s : List Char} (hs : s ≠ []) (h : ∀ c ∈ s, isLetter c) :
    Factor.segments s = [(s, [])] := by
  obtain ⟨c, r, rfl⟩ := List.exists_cons_of_ne_nil hs
  have ht : (c :: r).takeWhile isLetter = c :: r := List.takeWhile_eq_self_iff.mpr h
  have hd : (c :: r).dropWhile isLetter = [] := List.dropWhile_eq_nil_iff.mpr h
  rw [Factor.segments, ht, hd]
  simp [Factor.segments]

lemma symbols_are_letters :
    (NamedUnit.all.all fun u => u.symbol.toList.all isLetter) = true := by
  decide +kernel

lemma isLetter_of_ofSymbol? {s : String} {u : NamedUnit} (h : NamedUnit.ofSymbol? s = some u) :
    s ≠ "" ∧ ∀ c ∈ s.toList, isLetter c := by
  obtain ⟨hs, hu, rfl⟩ := NamedUnit.ofSymbol?_eq_some_iff.mp h
  exact ⟨hs, List.all_eq_true.mp (List.all_eq_true.mp symbols_are_letters u hu)⟩

lemma ofSegment_of_letters {s : List Char} (hs : s ≠ []) :
    Factor.ofSegment (s, []) = .ok ⟨String.ofList s, 1⟩ := by
  obtain ⟨c, r, rfl⟩ := List.exists_cons_of_ne_nil hs
  rw [Factor.ofSegment, Factor.readExponent, if_pos rfl]
  · rfl
  · simp

lemma split_of_ofSymbol? {s : String} {u : NamedUnit} (h : NamedUnit.ofSymbol? s = some u) :
    Factor.split s = .ok [⟨s, 1⟩] := by
  obtain ⟨hs, hl⟩ := isLetter_of_ofSymbol? h
  have hn : s.toList ≠ [] := by simpa using hs
  rw [Factor.split, segments_of_letters hn hl, List.mapM_cons, ofSegment_of_letters hn,
    String.ofList_toList]
  rfl

lemma resolves_of_parse {s : String} (hs : s ≠ "") (h : (Dimension.parse s).toOption.isSome) :
    ∃ fs, Resolves s fs := by
  rw [Dimension.parse] at h
  split at h
  · next u hu =>
    refine ⟨_, hs, split_of_ofSymbol? hu, Dimension.dimensionless * u.dimension.power 1, ?_⟩
    simp only [Dimension.ofFactors, List.foldlM_cons, Dimension.ofFactor, hu]
    rfl
  · rcases hf : Factor.split s with e | fs <;> rw [hf] at h
    · contradiction
    · rcases hd : Dimension.ofFactors fs with e | d
      · simp [bind, Except.bind, hd, Except.toOption] at h
      · exact ⟨fs, hs, hf, d, hd⟩

namespace Cursor

lemma token_kind_eq_endOfInput_iff (c : Cursor) :
    c.token.kind = .endOfInput ↔ (splitBlanks false c.rest).2 = [] :=
  Lexeme.kind_eq_endOfInput_iff _ _

lemma tokens_of_ne_nil {c : Cursor} (h : (splitBlanks false c.rest).2 ≠ []) :
    c.tokens = c.token :: c.advance.tokens := by
  rw [tokens, if_neg h]

lemma tokens_cons {c : Cursor} {gap s : List Char} {x : Lexeme}
    (hb : splitBlanks false c.rest = (gap, s)) (hs : s ≠ [])
    (hx : Lexeme.ofChars c.afterNumber s = x) :
    c.tokens = ⟨x.kind, x.text, c.place.advance gap⟩ ::
      tokens ⟨x.rest, (c.place.advance gap).advance x.taken, x.kind = .number⟩ := by
  have hl : c.lexeme = x := by rw [lexeme, hb, hx]
  have hp : c.tokenPlace = c.place.advance gap := by rw [tokenPlace, hb]
  rw [tokens_of_ne_nil (by rwa [hb]), token, advance, hl, hp]

lemma tokens_first {x : Lexeme} {afterNumber : Bool} (c : Char) (r : List Char)
    (hc : splitBlanks false (c :: r) = ([], c :: r)) (hx : Lexeme.ofChars false (c :: r) = x)
    (hk : decide (x.kind = .number) = afterNumber) (place : Place) :
    ∃ place', tokens ⟨c :: r, place, false⟩ =
      ⟨x.kind, x.text, place⟩ :: tokens ⟨x.rest, place', afterNumber⟩ :=
  ⟨_, hk ▸ tokens_cons (c := ⟨c :: r, place, false⟩) hc (List.cons_ne_nil _ _) hx⟩

lemma tokens_nil (place : Place) (afterNumber : Bool) :
    tokens ⟨[], place, afterNumber⟩ = [⟨.endOfInput, "", place⟩] := by
  rw [tokens]
  rfl

lemma tokens_ends (c : Cursor) :
    ∃ ts e, c.tokens = ts ++ [e] ∧ e.kind = .endOfInput ∧ ∀ t ∈ ts, t.kind ≠ .endOfInput := by
  fun_induction Cursor.tokens c with
  | case1 c h => exact ⟨[], c.token, rfl, c.token_kind_eq_endOfInput_iff.mpr h, by simp⟩
  | case2 c h ih =>
    obtain ⟨ts, e, he, hk, hn⟩ := ih
    have ht := mt c.token_kind_eq_endOfInput_iff.mp h
    exact ⟨c.token :: ts, e, by rw [he, List.cons_append], hk, by simpa [ht] using hn⟩

lemma forall_mem_tokens {P : Token → Prop} (h : ∀ c : Cursor, P c.token) (c : Cursor) :
    ∀ t ∈ c.tokens, P t := by
  fun_induction Cursor.tokens c with
  | case1 c => simpa using h c
  | case2 c _ ih => simpa using ⟨h c, ih⟩

lemma resolves_of_mem_tokens (c : Cursor) {t : Token} (ht : t ∈ c.tokens) (hk : t.kind = .unit) :
    ∃ fs, Resolves t.text fs := by
  refine forall_mem_tokens (P := fun t => t.kind = .unit → ∃ fs, Resolves t.text fs) ?_ c t ht hk
  intro c hk
  obtain ⟨w, r, hu, hw⟩ := Lexeme.unit_of_kind hk
  obtain ⟨hw', -, hp⟩ := Lexeme.unit_eq_some hu
  have hn : String.ofList w ≠ "" := by simpa using Lexeme.unitWord_ne_nil hw'
  have ht : c.token.text = String.ofList w := hw
  rw [ht]
  exact resolves_of_parse hn hp

end Cursor

end QuantityCalculator
