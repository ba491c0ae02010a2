import QuantityCalculator.Proofs.Scanning.Longest

/-!
The pieces of a text that are tokens. Main statement: they follow each other with nothing but blanks
and comments between them, through the end of the text, and each is spelled as its token says.
-/

namespace QuantityCalculator

open Text Lexeme

/-- Blanks, and comments through the end of their line; the last comment may end with the text. -/
inductive Gap (last : Prop) : List Char → Prop
  | nil : Gap last []
  | blank {c s} : isBlank c → Gap last s → Gap last (c :: s)
  | comment {w s} : '\n' ∉ w → Gap last s → Gap last ('#' :: (w ++ '\n' :: s))
  | unended {w} : last → '\n' ∉ w → Gap last ('#' :: w)

/-- A token of this kind with this text is spelled `w` where `r` follows. -/
inductive Spelling : Token.Kind → String → List Char → List Char → Prop
  | number {w r} : Numeral.Literal w →
      (∀ v, v <+: w ++ r → Numeral.Literal v → v.length ≤ w.length) →
      Spelling .number (String.ofList w) w r
  | unit {w r} : isBoundary r → (Dimension.parse (String.ofList w)).toOption.isSome →
      Spelling .unit (String.ofList w) w r
  | name {w r} : w = (w ++ r).takeWhile isWord → Spelling .name (String.ofList w) w r
  | quoted {w r} : quote ∉ w →
      Spelling .quotedUnit (String.ofList w) (quote :: w ++ [quote]) r
  | unended {w} : quote ∉ w →
      Spelling .error "Parse error: Unterminated unit string" (quote :: w) []
  | unexpected {c r} : symbol? c = none → c ≠ '*' → c ≠ quote → c.isDigit = false →
      isWordStart c = false → Spelling .error s!"Unexpected character '{c}'" [c] r
  | symbol {c k r} : symbol? c = some k → Spelling k (String.ofList [c]) [c] r
  | asterisk {r} : r.head? ≠ some '*' → Spelling .asterisk "*" ['*'] r
  | power {r} : Spelling .caret "**" ['*', '*'] r

/-- From position `n` on, `s` is made of tokens, each given with the position after it. -/
inductive Tiled (s : List Char) : Nat → List (Token × Nat) → Prop
  | last {n t} : n ≤ s.length → Gap True (s.drop n) → t.kind = .endOfInput →
      t.place.position = s.length → Tiled s n [(t, s.length)]
  | next {n start stop t ps} : t.kind ≠ .endOfInput → t.place.position = start →
      n ≤ start → start < stop → stop ≤ s.length → Gap False (s.extract n start) →
      Spelling t.kind t.text (s.extract start stop) (s.drop stop) →
      (∀ r, s.drop start = '*' :: '*' :: r → t.kind = .caret ∧ stop = start + 2) →
      Tiled s stop ps → Tiled s n ((t, stop) :: ps)

variable {s w r : List Char} {n : Nat} {c : Char} {last : Prop}

lemma Gap.insert (h : Gap last ('#' :: s)) (hc : c ≠ '\n') : Gap last ('#' :: c :: s) := by
  cases h with
  | blank hb => exact absurd hb (by decide)
  | @comment w s hw hs => exact .comment (w := c :: w) (by simp [hc.symm, hw]) hs
  | unended hl hw => exact .unended hl (by simp [hc.symm, hw])

lemma gap_splitBlanks (b : Bool) (s : List Char) :
    Gap ((splitBlanks b s).2 = [])
      (if b then '#' :: (splitBlanks b s).1 else (splitBlanks b s).1) := by
  -- A comment that goes on is one from what opened it.
  induction s generalizing b with
  | nil =>
    cases b
    · exact .nil
    · exact .unended rfl (by simp [splitBlanks])
  | cons c s ih =>
    cases b with
    | true =>
      by_cases hc : c = '\n'
      · subst hc
        exact .comment (w := []) (by simp) (ih false)
      · have h := ih true
        simpa [splitBlanks, hc] using h.insert hc
    | false =>
      by_cases hc : c = '#'
      · subst hc
        simpa [splitBlanks] using ih true
      · by_cases hb : isBlank c
        · simpa [splitBlanks, hc, hb] using Gap.blank hb (ih false)
        · simpa [splitBlanks, hc, hb] using .nil

lemma Spelling.ofStar (r : List Char) :
    Spelling (star r).kind (star r).text (star r).taken (star r).rest := by
  fun_cases star r with
  | case1 r => exact .power
  | case2 r hr =>
    refine .asterisk fun h => ?_
    obtain ⟨t, rfl⟩ := List.head?_eq_some_iff.mp h
    exact hr t rfl

lemma Spelling.ofQuoted (r : List Char) :
    Spelling (Lexeme.quoted r).kind (Lexeme.quoted r).text (Lexeme.quoted r).taken
      (Lexeme.quoted r).rest := by
  have hq : quote ∉ r.takeWhile (· ≠ quote) := fun h => by simpa using List.mem_takeWhile_imp h
  rw [Lexeme.quoted]
  split
  · exact .unended hq
  · exact .quoted hq

lemma Spelling.ofCons (hn : Lexeme.number (c :: r) = none) :
    Spelling (Lexeme.ofCons c r).kind (Lexeme.ofCons c r).text (Lexeme.ofCons c r).taken
      (Lexeme.ofCons c r).rest := by
  rw [Lexeme.ofCons]
  split
  · next h => exact .symbol h
  · next hs =>
    split
    · exact .ofStar r
    · next ha =>
      split
      · exact .ofQuoted r
      · next hq =>
        split
        · exact .name (congrArg _ List.takeWhile_append_dropWhile.symm)
        · next hw =>
          refine .unexpected hs ha hq ?_ (by simpa using hw)
          by_contra hd
          have hd : Numeral.Digits [c] := ⟨by simp, by simpa using hd⟩
          have hl : Numeral.Literal [c] := .mk hd .none .none
          obtain ⟨u, t, hu, -⟩ := Numeral.takes_number [c] r hl
          rw [List.singleton_append, hn] at hu
          contradiction

lemma spelling_ofChars (afterNumber : Bool) (hs : s ≠ []) :
    Spelling (ofChars afterNumber s).kind (ofChars afterNumber s).text (ofChars afterNumber s).taken
      (ofChars afterNumber s).rest := by
  obtain ⟨c, r, rfl⟩ := List.exists_cons_of_ne_nil hs
  simp only [ofChars]
  split
  · next w t hu =>
    cases afterNumber
    · contradiction
    · obtain ⟨-, hb, hp⟩ := unit_eq_some hu
      exact .unit hb hp
  · split
    · next w t hw =>
      have hl := Numeral.longest hw
      rw [← splits_number _ _ _ hw] at hl
      exact .number (Numeral.literal_of_munch hw) hl
    · next hn => exact .ofCons hn

lemma ofChars_stars (afterNumber : Bool) (r : List Char) :
    ofChars afterNumber ('*' :: '*' :: r) = verbatim .caret ['*', '*'] r := by
  have hu : unit ('*' :: '*' :: r) = none := by
    rw [unit, unitWord_of_none rfl]
  cases afterNumber
  · rfl
  · simp only [ofChars, unitOrNone, if_pos, hu]
    rfl

lemma Place.position_advance (p : Place) (w : List Char) :
    (p.advance w).position = p.position + w.length := by
  induction w generalizing p with
  | nil => rfl
  | cons c w ih =>
    rw [Place.advance, List.foldl_cons, ← Place.advance, ih, Place.step]
    split <;> simp <;> omega

lemma extract_of_drop {u v : List Char} (hn : n ≤ s.length) (h : s.drop n = u ++ v) :
    n + u.length ≤ s.length ∧ s.extract n (n + u.length) = u ∧ s.drop (n + u.length) = v := by
  have hl := congrArg List.length h
  rw [List.length_drop, List.length_append] at hl
  refine ⟨by omega, ?_, ?_⟩
  · rw [List.extract_eq_take_drop, h]
    simp
  · rw [← List.drop_drop, h]
    simp

namespace Cursor

/-- The tokens, each with the position where the next one is looked for. -/
def pieces (c : Cursor) : List (Token × Nat) :=
  if (splitBlanks false c.rest).2 = [] then [(c.token, c.advance.place.position)]
  else (c.token, c.advance.place.position) :: c.advance.pieces
termination_by c.rest.length
decreasing_by exact length_advance_lt (by assumption)

lemma map_pieces (c : Cursor) : c.pieces.map Prod.fst = c.tokens := by
  fun_induction pieces c with
  | case1 c h => rw [tokens, if_pos h]; rfl
  | case2 c h ih => rw [tokens, if_neg h, ← ih]; rfl

def Within (c : Cursor) (s : List Char) : Prop :=
  c.place.position ≤ s.length ∧ s.drop c.place.position = c.rest

variable {c : Cursor}

lemma Within.gap (h : c.Within s) :
    c.place.position ≤ c.tokenPlace.position ∧ c.tokenPlace.position ≤ s.length ∧
      s.extract c.place.position c.tokenPlace.position = (splitBlanks false c.rest).1 ∧
      s.drop c.tokenPlace.position = (splitBlanks false c.rest).2 := by
  have hb := h.2.trans (splitBlanks_append false c.rest).symm
  rw [tokenPlace, Place.position_advance]
  exact ⟨Nat.le_add_right _ _, extract_of_drop h.1 hb⟩

lemma Within.lexeme (h : c.Within s) :
    c.advance.place.position = c.tokenPlace.position + c.lexeme.taken.length ∧
      s.extract c.tokenPlace.position c.advance.place.position = c.lexeme.taken ∧
      c.advance.Within s := by
  obtain ⟨-, hn, -, hd⟩ := h.gap
  have hp : c.advance.place.position = c.tokenPlace.position + c.lexeme.taken.length :=
    Place.position_advance _ _
  have hl := hd.trans (Lexeme.ofChars_append c.afterNumber _).symm
  obtain ⟨hs, he, hr⟩ := extract_of_drop hn hl
  rw [Within, hp]
  exact ⟨rfl, he, hs, hr⟩

lemma Within.gap_before (h : c.Within s) : Gap (c.token.kind = .endOfInput)
    (s.extract c.place.position c.token.place.position) := by
  obtain ⟨-, -, hg, -⟩ := h.gap
  have hb := gap_splitBlanks false c.rest
  rw [if_neg Bool.false_ne_true, ← hg, ← c.token_kind_eq_endOfInput_iff] at hb
  exact hb

lemma Within.at_end (h : c.Within s) (hk : c.token.kind = .endOfInput) :
    c.token.place.position = s.length ∧ c.advance.place.position = s.length := by
  have hr := c.token_kind_eq_endOfInput_iff.mp hk
  obtain ⟨-, hp, -, hd⟩ := h.gap
  have hs : c.tokenPlace.position = s.length := by
    rw [hr, List.drop_eq_nil_iff] at hd
    omega
  have ht : c.lexeme.taken = [] := by rw [Cursor.lexeme, hr]; rfl
  rw [h.lexeme.1, ht]
  exact ⟨hs, hs⟩

lemma Within.spelled (h : c.Within s) (hk : c.token.kind ≠ .endOfInput) :
    c.token.place.position < c.advance.place.position ∧
      Spelling c.token.kind c.token.text
        (s.extract c.token.place.position c.advance.place.position)
        (s.drop c.advance.place.position) := by
  have hr := mt c.token_kind_eq_endOfInput_iff.mpr hk
  obtain ⟨hq, hx, hc⟩ := h.lexeme
  have ht := List.length_pos_iff.mpr (Lexeme.taken_ne_nil c.afterNumber hr)
  have hx : s.extract c.token.place.position c.advance.place.position = c.lexeme.taken := hx
  rw [hx, hc.2]
  refine ⟨?_, spelling_ofChars c.afterNumber hr⟩
  rw [hq]
  exact Nat.lt_add_of_pos_right ht

lemma tiled_pieces (h : c.Within s) : Tiled s c.place.position c.pieces := by
  fun_induction pieces c with
  | case1 c hr =>
    have hk := c.token_kind_eq_endOfInput_iff.mpr hr
    obtain ⟨ht, ha⟩ := h.at_end hk
    have hg := h.gap_before
    rw [ht, eq_true hk, List.extract_eq_take_drop, ← List.length_drop, List.take_length] at hg
    rw [ha]
    exact .last h.1 hg hk ht
  | case2 c hr ih =>
    have hk := mt c.token_kind_eq_endOfInput_iff.mp hr
    obtain ⟨hq, -, hc⟩ := h.lexeme
    obtain ⟨hn, -, -, hd⟩ := h.gap
    obtain ⟨hp, hs⟩ := h.spelled hk
    have hg := h.gap_before
    rw [eq_false hk] at hg
    refine .next hk rfl hn hp hc.1 hg hs ?_ (ih hc)
    intro r hstar
    have hl : c.lexeme = verbatim .caret ['*', '*'] r := by
      rw [Cursor.lexeme, ← hd]
      exact hstar ▸ ofChars_stars c.afterNumber r
    refine ⟨congrArg Lexeme.kind hl, ?_⟩
    rw [hq, hl]
    rfl

/-- The tokens of a text and the blanks and comments around them are the text. -/
theorem tokens_tile (s : String) :
    (ofText s).pieces.map Prod.fst = (ofText s).tokens ∧ Tiled s.toList 0 (ofText s).pieces :=
  ⟨map_pieces _, tiled_pieces (c := ofText s) ⟨Nat.zero_le _, rfl⟩⟩

end Cursor

end QuantityCalculator
