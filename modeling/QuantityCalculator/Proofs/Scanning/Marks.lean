import Mathlib.Logic.Function.Iterate
import QuantityCalculator.Proofs.Reading.Composes
import QuantityCalculator.Proofs.Scanning.Tiling

/-!
A cursor that is set back. Main statement: wherever it has been, it tells the place where it stands, and
what it gives from there on depends on nothing but the text, the position and whether a number was
before; so a reader that looks ahead or tries in vain is where it was.
-/

namespace QuantityCalculator

open Text Parse

/-- The line counts the line breaks before the place, the column the characters after the last of
them; both begin with one. -/
structure Place.Counts (s : List Char) (p : Place) : Prop where
  line_eq : p.line = 1 + (s.take p.position).count '\n'
  column_eq : p.column = 1 + ((s.take p.position).reverse.takeWhile (· ≠ '\n')).length

namespace Cursor

/-- What the cursor says of its place is so in the text. -/
structure Stands (s : List Char) (c : Cursor) : Prop where
  within : c.Within s
  counts : c.place.Counts s

/-- Uses of a cursor on a text: tokens are taken, places are marked, and from anywhere it is set back to
any of the marks. -/
inductive Used (s : String) : Cursor → List Cursor → Prop
  | start : Used s (ofText s) []
  | next {c marks} : Used s c marks → Used s c.advance marks
  | mark {c marks} : Used s c marks → Used s c (c :: marks)
  | back {c d marks} : Used s c marks → d ∈ marks → Used s d marks

end Cursor

variable {s w r : List Char} {text : String} {p : Place} {c d : Cursor} {marks : List Cursor}
  {n : Nat} {ch : Char}

namespace Place

lemma Counts.step (h : p.Counts s) (hs : s.drop p.position = ch :: r) : (p.step ch).Counts s := by
  obtain ⟨hl, hc⟩ := h
  have ht : s.take (p.position + 1) = s.take p.position ++ [ch] := by
    rw [List.take_add, hs]
    rfl
  by_cases hn : ch = '\n'
  · rw [Place.step, if_pos hn]
    constructor
    · simp [ht, hl, hn, Nat.add_assoc]
    · simp [ht, hn]
  · rw [Place.step, if_neg hn]
    constructor
    · simp [ht, hl, hn]
    · simp [ht, hc, hn, Nat.add_assoc]

lemma Counts.advance (h : p.Counts s) (hs : s.drop p.position = w ++ r) : (p.advance w).Counts s := by
  induction w generalizing p with
  | nil => exact h
  | cons ch w ih =>
    refine ih (h.step hs) ?_
    have hp : (p.step ch).position = p.position + 1 := by
      rw [Place.step]
      split <;> rfl
    rw [hp, ← List.drop_drop, hs]
    rfl

end Place

namespace Cursor

lemma Stands.head?_eq (h : c.Stands s) : c.rest.head? = s[c.place.position]? := by
  rw [← h.within.2, List.head?_drop]

lemma Stands.tokenPlace (h : c.Stands s) : c.tokenPlace.Counts s :=
  h.counts.advance (h.within.2.trans (splitBlanks_append false c.rest).symm)

lemma Stands.advance (h : c.Stands s) : c.advance.Stands s := by
  obtain ⟨-, -, -, hd⟩ := h.within.gap
  have hl := hd.trans (Lexeme.ofChars_append c.afterNumber _).symm
  exact ⟨h.within.lexeme.2.2, h.tokenPlace.advance hl⟩

/-- The text, the position and what was before it tell all about a cursor. -/
lemma Stands.unique (h : c.Stands s) (h' : d.Stands s)
    (hp : c.place.position = d.place.position) (ha : c.afterNumber = d.afterNumber) : c = d := by
  obtain ⟨⟨-, hr⟩, hl, hc⟩ := h
  obtain ⟨⟨-, hr'⟩, hl', hc'⟩ := h'
  rcases c with ⟨r, ⟨n, line, column⟩, a⟩
  rcases d with ⟨r', ⟨n', line', column'⟩, a'⟩
  simp only at hp ha hr hl hc hr' hl' hc'
  subst hp ha hr hl hc hr' hl' hc'
  rfl

lemma Used.stands (h : Used text c marks) :
    c.Stands text.toList ∧ ∀ d ∈ marks, d.Stands text.toList := by
  induction h with
  | start => exact ⟨⟨⟨Nat.zero_le _, rfl⟩, rfl, rfl⟩, List.forall_mem_nil _⟩
  | next _ ih => exact ⟨ih.1.advance, ih.2⟩
  | mark _ ih => exact ⟨ih.1, List.forall_mem_cons.mpr ih⟩
  | back _ hd ih => exact ⟨ih.2 _ hd, ih.2⟩

lemma advance_of_end (h : c.token.kind = .endOfInput) :
    c.advance.token = c.token ∧ c.advance.place = c.token.place := by
  have hb := c.token_kind_eq_endOfInput_iff.mp h
  have hl : c.lexeme = ⟨.endOfInput, "", [], []⟩ := by rw [lexeme, hb]; rfl
  have ha : c.advance = ⟨[], c.tokenPlace, false⟩ := by rw [advance, hl]; rfl
  have ht : c.token = ⟨.endOfInput, "", c.tokenPlace⟩ := by rw [token, hl]
  rw [ha, ht]
  exact ⟨rfl, rfl⟩

lemma token_iterate_of_end (h : c.token.kind = .endOfInput) (n : Nat) :
    (advance^[n] c).token = c.token := by
  induction n generalizing c with
  | zero => rfl
  | succ n ih =>
    have ha := (advance_of_end h).1
    rw [Function.iterate_succ_apply, ih (ha ▸ h), ha]

lemma headD_tokens (c : Cursor) (t : Token) : c.tokens.headD t = c.token := by
  rw [tokens]
  split <;> rfl

/-- Each token but the last takes a character at least. -/
lemma exists_tokens_eq (c : Cursor) : ∃ n ≤ c.rest.length,
    c.tokens = (List.range (n + 1)).map (fun k => (advance^[k] c).token) ∧
    (advance^[n] c).token.kind = .endOfInput ∧
    ∀ k < n, (advance^[k] c).token.kind ≠ .endOfInput := by
  fun_induction Cursor.tokens c with
  | case1 c h =>
    exact ⟨0, Nat.zero_le _, rfl, c.token_kind_eq_endOfInput_iff.mpr h,
      fun k hk => absurd hk (Nat.not_lt_zero k)⟩
  | case2 c h ih =>
    obtain ⟨n, hn, ht, he, hb⟩ := ih
    refine ⟨n + 1, Nat.lt_of_le_of_lt hn (length_advance_lt h), ?_, he, fun k hk => ?_⟩
    · rw [List.range_succ_eq_map, List.map_cons, List.map_map, ht]
      rfl
    · cases k with
      | zero => exact mt c.token_kind_eq_endOfInput_iff.mp h
      | succ k => exact hb k (Nat.lt_of_succ_lt_succ hk)

end Cursor

namespace Parse

/-- Trying the head of a definition takes tokens, and changes nothing else. -/
lemma composes_drop : Composes (fun p q => ∃ k, q = { p with tokens := p.tokens.drop k })
    fun _ p q => ∃ k, q = { p with tokens := p.tokens.drop k } := by
  have trans {p q r : Parser} (h : ∃ k, q = { p with tokens := p.tokens.drop k })
      (h' : ∃ k, r = { q with tokens := q.tokens.drop k }) :
      ∃ k, r = { p with tokens := p.tokens.drop k } := by
    obtain ⟨k, rfl⟩ := h
    obtain ⟨j, rfl⟩ := h'
    exact ⟨k + j, by rw [List.drop_drop]⟩
  exact ⟨fun _ => ⟨0, rfl⟩, trans, trans, fun _ _ => ⟨0, rfl⟩, fun _ => ⟨1, by rw [List.drop_one]⟩⟩

lemma functionHead_drop (p : Parser) :
    ∃ k, (functionHead p).2 = { p with tokens := p.tokens.drop k } := by
  have h := composes_drop.functionHead (s := p)
  rcases hr : functionHead p with ⟨e | a, q⟩
  · exact (leads_of_error hr).mp h
  · exact (leads_of_ok hr).mp h

lemma functionOrExpression_of_error {p q : Parser} {e : Error} (h : functionHead p = (.error e, q)) :
    functionOrExpression p = wholeExpression p :=
  bind_of_ok (Grammar.attempt_of_error h)

end Parse

namespace Cursor

/-- However a cursor was used, it and the token it gives tell their places; the token is the end of the
text again and again, or takes some of it; all depends on the text, the position and what was before
it only; and a parser that looks ahead from there, or tries in vain, is where it was. -/
theorem used_cursor (h : Used text c marks) :
    (c.Stands text.toList ∧ c.rest.head? = text.toList[c.place.position]?) ∧
    (c.place.position ≤ c.token.place.position ∧ c.token.place.Counts text.toList ∧
      Gap (c.token.kind = .endOfInput)
        (text.toList.extract c.place.position c.token.place.position)) ∧
    (c.token.kind ≠ .endOfInput →
      c.token.place.position < c.advance.place.position ∧
      Spelling c.token.kind c.token.text
        (text.toList.extract c.token.place.position c.advance.place.position)
        (text.toList.drop c.advance.place.position)) ∧
    (c.token.kind = .endOfInput →
      c.token.place.position = text.length ∧ c.advance.place.position = text.length ∧
      ∀ n, (advance^[n] c).token = c.token) ∧
    (∃ n, c.place.position + n ≤ text.length ∧
      (advance^[n] c).token.kind = .endOfInput ∧
      (∀ k < n, (advance^[k] c).token.kind ≠ .endOfInput) ∧
      c.tokens = (List.range (n + 1)).map fun k => (advance^[k] c).token) ∧
    (∀ d marks', Used text d marks' → d.place.position = c.place.position →
      d.afterNumber = c.afterNumber → d = c) ∧
    ∀ p t, p.tokens = t :: c.tokens →
      p.followingKind = c.token.kind ∧
      (∃ k, (functionHead p).2 = { p with tokens := p.tokens.drop k }) ∧
      ∀ e q, functionHead p = (.error e, q) →
        attempt functionHead p = (.ok none, p) ∧ functionOrExpression p = wholeExpression p := by
  have hs := h.stands.1
  obtain ⟨hn, -, -, -⟩ := hs.within.gap
  refine ⟨⟨hs, hs.head?_eq⟩, ⟨hn, hs.tokenPlace, hs.within.gap_before⟩, hs.within.spelled,
    fun hk => ?_, ?_, fun d marks' hd hp ha => hd.stands.1.unique hs hp ha, fun p t hp => ?_⟩
  · obtain ⟨ht, ha⟩ := hs.within.at_end hk
    rw [← String.length_toList]
    exact ⟨ht, ha, token_iterate_of_end hk⟩
  · obtain ⟨n, hl, ht, he, hb⟩ := c.exists_tokens_eq
    have hr := congrArg List.length hs.within.2
    rw [List.length_drop] at hr
    have hp := hs.within.1
    refine ⟨n, ?_, he, hb, ht⟩
    rw [← String.length_toList]
    omega
  · refine ⟨?_, functionHead_drop p, fun e q hr => ?_⟩
    · rw [Parser.followingKind, hp, List.tail_cons]
      exact congrArg Token.kind (c.headD_tokens _)
    · exact ⟨Grammar.attempt_of_error hr, functionOrExpression_of_error hr⟩

/-- A place is marked after the sum sign; the quote that is taken from there is given again. -/
theorem quote_is_given_again :
    let s := "2 + # x\n\x27"
    let c := (ofText s).advance.advance
    Used s c.advance [c] ∧ Used s c [c] ∧ c.token.kind = .error ∧
      c.token.place = ⟨8, 2, 1⟩ ∧ c.token.place.Counts s.toList ∧
      c.token.place.position < c.advance.place.position := by
  intro s c
  have hm : Used s c.advance [c] := .next (.mark (.next (.next .start)))
  have hb : Used s c [c] := .back hm List.mem_cons_self
  have hk : c.token.kind = .error := by decide +kernel
  have hp : c.token.place = ⟨8, 2, 1⟩ := by decide +kernel
  obtain ⟨-, ⟨-, ht, -⟩, hn, -⟩ := used_cursor hb
  have hn := hn (by rw [hk]; decide)
  exact ⟨hm, hb, hk, hp, ht, hn.1⟩

end Cursor

end QuantityCalculator
