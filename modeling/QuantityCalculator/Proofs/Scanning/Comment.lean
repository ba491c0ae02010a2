import Mathlib.Data.List.Forall2
import QuantityCalculator.Proofs.Scanning.Tokens

/-!
A comment behind a text. Main statement: the tokens are the same, but for the place where the input
ends, if no quote is open before the comment.
-/

namespace QuantityCalculator

open Text

/-- A quote that no other one ends. -/
def Unended (kind : Token.Kind) (text : String) : Prop :=
  kind = .error ∧ text = "Parse error: Unterminated unit string"

instance (kind : Token.Kind) (text : String) : Decidable (Unended kind text) :=
  inferInstanceAs (Decidable (_ ∧ _))

/-- The same token, or the end of the input wherever it is. -/
inductive Token.Alike : Token → Token → Prop
  | refl t : Alike t t
  | ends {t u} : t.kind = .endOfInput → u.kind = .endOfInput → Alike t u

variable {p : Char → Bool} {s : List Char}

lemma Text.span_comment (h : s.dropWhile p ≠ [] ∨ p '#' = false) (w : List Char) :
    (s ++ '#' :: w).takeWhile p = s.takeWhile p ∧
      (s ++ '#' :: w).dropWhile p = s.dropWhile p ++ '#' :: w := by
  induction s with
  | nil => simp [h.resolve_left fun h => h rfl]
  | cons c s ih =>
    by_cases hc : p c
    · rw [List.dropWhile_cons_of_pos hc] at h
      simp [hc, ih h]
    · simp [hc]

namespace Text.Munch

/-- A reader to which the sign of a comment is as good as the end of the text. -/
def StopsAtComment (a : Munch) : Prop :=
  ∀ s w, a (s ++ '#' :: w) = (a s).map fun (v, r) => (v, r ++ '#' :: w)

variable {a b : Munch}

lemma stopsAtComment_one (h : p '#' = false) : StopsAtComment (one p) := by
  rintro (_ | ⟨c, s⟩) w
  · simp [one, h]
  · rw [List.cons_append, one, one]
    split
    · rfl
    · rfl

lemma stopsAtComment_run (h : p '#' = false) : StopsAtComment (run p) := by
  intro s w
  obtain ⟨ht, hd⟩ := span_comment (s := s) (.inr h) w
  rw [run, run, ht, hd]
  cases s.takeWhile p <;> rfl

lemma StopsAtComment.followedBy (ha : StopsAtComment a) (hb : StopsAtComment b) :
    StopsAtComment (a.followedBy b) := by
  intro s w
  rw [Munch.followedBy, Munch.followedBy, ha]
  rcases a s with _ | ⟨v, r⟩
  · rfl
  · simp only [Option.map_some, hb r w]
    cases b r <;> rfl

lemma StopsAtComment.optional (ha : StopsAtComment a) : StopsAtComment (optional a) := by
  intro s w
  rw [Munch.optional, Munch.optional, ha]
  cases a s <;> rfl

end Text.Munch

open Munch

namespace Lexeme

lemma stopsAtComment_digits : StopsAtComment digits :=
  stopsAtComment_run rfl

lemma stopsAtComment_sign : StopsAtComment (.optional sign) :=
  (stopsAtComment_one rfl).optional

lemma stopsAtComment_fraction : StopsAtComment (.optional fraction) :=
  ((stopsAtComment_one rfl).followedBy stopsAtComment_digits).optional

lemma stopsAtComment_number : StopsAtComment number :=
  (stopsAtComment_digits.followedBy stopsAtComment_fraction).followedBy
    (((stopsAtComment_one rfl).followedBy stopsAtComment_sign).followedBy
      stopsAtComment_digits).optional

lemma stopsAtComment_unitSegment : StopsAtComment unitSegment :=
  (stopsAtComment_run rfl).followedBy
    ((stopsAtComment_sign.followedBy stopsAtComment_digits).followedBy
      stopsAtComment_fraction).optional

lemma stopsAtComment_unitWord : StopsAtComment unitWord := by
  intro s w
  fun_induction unitWord s with
  | case1 s h =>
    rw [unitWord_of_none (by rw [stopsAtComment_unitSegment, h]; rfl)]
    rfl
  | case2 s v r h hr ih =>
    have hs := stopsAtComment_unitSegment s w
    rw [h] at hs
    rw [unitWord_of_some hs, ih, hr]
    rfl
  | case3 s v r h u t ht ih =>
    have hs := stopsAtComment_unitSegment s w
    rw [h] at hs
    rw [unitWord_of_some hs, ih, ht]
    rfl

lemma stopsAtComment_unit : StopsAtComment unit := by
  intro s w
  rw [unit, unit, stopsAtComment_unitWord]
  rcases unitWord s with _ | ⟨v, r⟩
  · rfl
  · have hb : isBoundary (r ++ '#' :: w) = isBoundary r := by
      rcases r with _ | ⟨c, r⟩
      · rfl
      · rfl
    simp only [Option.map_some, hb]
    split
    · rfl
    · rfl

lemma stopsAtComment_unitOrNone (afterNumber : Bool) : StopsAtComment (unitOrNone afterNumber) := by
  cases afterNumber
  · exact fun _ _ => rfl
  · exact stopsAtComment_unit

/-- The same piece of a text that goes on. -/
def before (x : Lexeme) (s : List Char) : Lexeme :=
  { x with rest := x.rest ++ s }

variable {c : Char} {r s w : List Char} {afterNumber : Bool}

lemma quoted_comment (h : quote ∈ r) : quoted (r ++ '#' :: w) = (quoted r).before ('#' :: w) := by
  have hn : r.dropWhile (· ≠ quote) ≠ [] := by
    simpa [List.dropWhile_eq_nil_iff] using h
  obtain ⟨ht, hd⟩ := span_comment (.inl hn) w
  obtain ⟨d, t, he⟩ := List.exists_cons_of_ne_nil hn
  rw [quoted, quoted, ht, hd, he]
  rfl

lemma star_comment (r w : List Char) : star (r ++ '#' :: w) = (star r).before ('#' :: w) := by
  fun_cases star r with
  | case1 r => rfl
  | case2 r hr =>
    rw [star]
    · rfl
    · intro t ht
      rcases r with _ | ⟨c, r⟩
      · cases ht
      · obtain ⟨rfl, -⟩ := List.cons.inj ht
        exact hr r rfl

lemma ofCons_comment (h : c = quote → quote ∈ r) :
    ofCons c (r ++ '#' :: w) = (ofCons c r).before ('#' :: w) := by
  rw [ofCons, ofCons]
  split
  · rfl
  · split
    · exact star_comment r w
    · split
      · next hc => exact quoted_comment (h hc)
      · split
        · obtain ⟨ht, hd⟩ := span_comment (p := isWord) (s := c :: r) (.inr rfl) w
          rw [← List.cons_append, ht, hd]
          rfl
        · rfl

lemma quote_mem (h : ¬ Unended (ofCons quote r).kind (ofCons quote r).text) : quote ∈ r := by
  by_contra hn
  have hd : r.dropWhile (· ≠ quote) = [] := by
    refine List.dropWhile_eq_nil_iff.mpr fun c hc => ?_
    have : c ≠ quote := fun h => hn (h ▸ hc)
    simpa using this
  have ho : ofCons quote r = quoted r := rfl
  refine h ?_
  rw [ho, quoted, hd]
  exact ⟨rfl, rfl⟩

lemma ofChars_comment (hs : s ≠ [])
    (h : ¬ Unended (ofChars afterNumber s).kind (ofChars afterNumber s).text) (w : List Char) :
    ofChars afterNumber (s ++ '#' :: w) = (ofChars afterNumber s).before ('#' :: w) := by
  obtain ⟨c, r, rfl⟩ := List.exists_cons_of_ne_nil hs
  have hu := stopsAtComment_unitOrNone afterNumber (c :: r) w
  have hn := stopsAtComment_number (c :: r) w
  rw [List.cons_append] at hu hn ⊢
  rcases hu' : unitOrNone afterNumber (c :: r) with _ | ⟨v, t⟩
  · rcases hn' : number (c :: r) with _ | ⟨v, t⟩
    · simp only [ofChars, hu, hn, hu', hn', Option.map_none] at h ⊢
      apply ofCons_comment
      rintro rfl
      exact quote_mem h
    · simp only [ofChars, hu, hn, hu', hn']
      rfl
  · simp only [ofChars, hu, hu']
    rfl

end Lexeme

variable {w : List Char}

lemma splitBlanks_comment (hw : '\n' ∉ w) : splitBlanks true w = (w, []) := by
  induction w with
  | nil => rfl
  | cons c w ih =>
    rw [List.mem_cons, not_or] at hw
    have hc : decide (c ≠ '\n') = true := decide_eq_true (Ne.symm hw.1)
    rw [splitBlanks, if_pos rfl, hc, ih hw.2]

lemma splitBlanks_append_comment (hw : '\n' ∉ w) (b : Bool) (s : List Char) :
    splitBlanks b (s ++ '#' :: w) = if (splitBlanks b s).2 = [] then (s ++ '#' :: w, [])
      else ((splitBlanks b s).1, (splitBlanks b s).2 ++ '#' :: w) := by
  induction s generalizing b with
  | nil =>
    have ht := splitBlanks_comment hw
    cases b <;> simp [splitBlanks, ht]
  | cons c s ih =>
    simp only [List.cons_append, splitBlanks]
    split
    · rw [ih]
      split
      · rfl
      · rfl
    · split
      · rw [ih]
        split
        · rfl
        · rfl
      · rfl

namespace Cursor

/-- The same cursor in a text that goes on. -/
def before (c : Cursor) (s : List Char) : Cursor :=
  { c with rest := c.rest ++ s }

variable {c : Cursor}

lemma splitBlanks_before (hw : '\n' ∉ w) (hr : (splitBlanks false c.rest).2 ≠ []) :
    splitBlanks false (c.before ('#' :: w)).rest =
      ((splitBlanks false c.rest).1, (splitBlanks false c.rest).2 ++ '#' :: w) :=
  (splitBlanks_append_comment hw false c.rest).trans (if_neg hr)

lemma token_before (hw : '\n' ∉ w) (hr : (splitBlanks false c.rest).2 ≠ [])
    (h : ¬ Unended c.token.kind c.token.text) : (c.before ('#' :: w)).token = c.token ∧
      (c.before ('#' :: w)).advance = c.advance.before ('#' :: w) := by
  have hb := splitBlanks_before hw hr
  have hl : (c.before ('#' :: w)).lexeme = c.lexeme.before ('#' :: w) := by
    rw [lexeme, hb]
    exact Lexeme.ofChars_comment hr h w
  have hp : (c.before ('#' :: w)).tokenPlace = c.tokenPlace := by
    rw [tokenPlace, hb]
    rfl
  rw [token, advance, hl, hp]
  exact ⟨rfl, rfl⟩

lemma tokens_before (hw : '\n' ∉ w) (c : Cursor) (h : ∀ t ∈ c.tokens, ¬ Unended t.kind t.text) :
    List.Forall₂ Token.Alike c.tokens (c.before ('#' :: w)).tokens := by
  fun_induction Cursor.tokens c with
  | case1 c hr =>
    have hb : (splitBlanks false (c.before ('#' :: w)).rest).2 = [] := by
      rw [before, splitBlanks_append_comment hw, if_pos hr]
    rw [tokens, if_pos hb]
    exact .cons (.ends (c.token_kind_eq_endOfInput_iff.mpr hr)
      ((token_kind_eq_endOfInput_iff _).mpr hb)) .nil
  | case2 c hr ih =>
    obtain ⟨hc, ht⟩ := List.forall_mem_cons.mp h
    obtain ⟨hk, ha⟩ := token_before hw hr hc
    have hb : (splitBlanks false (c.before ('#' :: w)).rest).2 ≠ [] := by
      rw [splitBlanks_before hw hr]
      simp
    rw [tokens_of_ne_nil hb, hk, ha]
    exact .cons (.refl _) (ih ht)

end Cursor

end QuantityCalculator
