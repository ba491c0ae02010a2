import QuantityCalculator.Proofs.Dimension.Segments
import QuantityCalculator.Proofs.Scanning.Longest

/-!
The word after a number. Main statement: it is taken as a unit if it ends there and all its symbols
are known, and else the number before it makes no difference.
-/

namespace QuantityCalculator

open Text Munch Numeral Factor

namespace Text.Munch

variable {a : Munch} {P : List Char → Prop} {S : Char → Prop} {p : Char → Bool}
  {s w r : List Char}

lemma run_eq_some_iff : run p s = some (w, r) ↔
    w ≠ [] ∧ (∀ c ∈ w, p c) ∧ (∀ c ∈ r.head?, p c = false) ∧ s = w ++ r := by
  constructor
  · intro h
    have hw := run_ne_nil h
    have hs := splits_run p s w r h
    rw [run] at h
    split at h
    · contradiction
    · obtain ⟨rfl, rfl⟩ := by simpa using h
      exact ⟨hw, fun c hc => List.mem_takeWhile_imp hc, head_dropWhile, hs.symm⟩
  · rintro ⟨hn, hw, hr, rfl⟩
    exact takes_run.exact (splits_run p) ⟨hn, hw⟩ hr

/-- Where nothing but words of `P` is taken, what may be left out is the longest one. -/
lemma Takes.optional_eq_some_iff (h : Takes a P S) (hs : Splits a)
    (hp : ∀ {s w r}, a s = some (w, r) → P w) : Munch.optional a s = some (w, r) ↔
      (w = [] ∨ P w) ∧ s = w ++ r ∧ ∀ v, P v → v <+: s → v.length ≤ w.length := by
  constructor
  · intro ho
    have hr := hs.optional s w r ho
    rcases ha : a s with _ | ⟨u, t⟩
    · rw [optional_of_none ha] at ho
      cases ho
      refine ⟨.inl rfl, rfl, ?_⟩
      rintro v hv ⟨t, rfl⟩
      obtain ⟨u, q, hu, -⟩ := h v t hv
      rw [hu] at ha
      cases ha
    · rw [optional_of_some ha] at ho
      cases ho
      refine ⟨.inr (hp ha), hr.symm, ?_⟩
      rintro v hv ⟨t, rfl⟩
      obtain ⟨u, q, hu, -⟩ := h v t hv
      rw [hu] at ha
      cases ha
      simp
  · rintro ⟨hw, rfl, hl⟩
    rcases ha : a (w ++ r) with _ | ⟨v, t⟩
    · obtain rfl | hw := hw
      · exact optional_of_none ha
      · obtain ⟨u, q, hu, -⟩ := h w r hw
        rw [hu] at ha
        cases ha
    · have hv := hl v (hp ha) ⟨t, hs _ _ _ ha⟩
      have hwv : w.length ≤ v.length := by
        obtain rfl | hw := hw
        · simp
        · obtain ⟨u, q, hu, -⟩ := h w r hw
          rw [hu] at ha
          cases ha
          simp
      obtain ⟨rfl, rfl⟩ := List.append_inj (hs _ _ _ ha) (by omega)
      exact optional_of_some ha

end Text.Munch

namespace Lexeme

/-- The word that begins a text, with greed: letters through the last one, the longest numeral that
stands behind them, if one does, and so on from there. -/
inductive Scan : List Char → List Segment → List Char → Prop
  | stop {s} : (∀ c ∈ s.head?, isLetter c = false) → Scan s [] s
  | segment {ls ns s gs r} : ls ≠ [] → (∀ c ∈ ls, isLetter c) →
      (∀ c ∈ (ns ++ s).head?, isLetter c = false) → ns = [] ∨ Exponent ns →
      (∀ v, Exponent v → v <+: ns ++ s → v.length ≤ ns.length) → Scan s gs r →
      Scan (ls ++ ns ++ s) ((ls, ns) :: gs) r

def word (gs : List Segment) : List Char :=
  gs.flatMap fun g => g.1 ++ g.2

/-- A unit, which ends where no longer name and no call could stand. -/
def IsUnit (gs : List Segment) (r : List Char) : Prop :=
  (∀ c ∈ r.head?, isWord c = false ∧ c ≠ '(') ∧
    ∀ g ∈ gs, NamedUnit.IsSymbol (String.ofList g.1)

def exponent : Munch :=
  ((Munch.optional sign).followedBy digits).followedBy (.optional fraction)

variable {s w r ls ns : List Char} {gs gs' : List Segment}

lemma splits_exponent : Splits exponent :=
  ((splits_one _).optional.followedBy splits_digits).followedBy splits_fraction.optional

lemma exponent_iff_parts : Exponent w ↔ ∃ sign ds fs, (sign = [] ∨ sign = ['+'] ∨ sign = ['-']) ∧
    Digits ds ∧ Fraction fs ∧ w = sign ++ ds ++ fs := by
  constructor
  · rintro ⟨hs, hd, hf⟩
    exact ⟨_, _, _, hs, hd, hf, (List.append_assoc ..).symm⟩
  · rintro ⟨sign, ds, fs, hs, hd, hf, rfl⟩
    rw [List.append_assoc]
    exact .mk hs (.mk hd hf)

lemma takes_exponent : Takes exponent Exponent (fun c => c.isDigit = false ∧ c ≠ '.') := by
  have hd := takes_sign.followedBy (splits_one _).optional takes_digits (fun v hv => hv.head)
    (fun h => absurd rfl h.1)
  have hf := hd.followedBy ((splits_one _).optional.followedBy splits_digits) takes_fraction
    (fun v hv c hc => ⟨fun h => absurd rfl h.1, hv.head c hc⟩) (fun _ _ => rfl)
  refine hf.mono ?_ ?_
  · intro w hw
    obtain ⟨sign, ds, fs, hs, hd, hf, rfl⟩ := exponent_iff_parts.mp hw
    exact ⟨_, _, ⟨_, _, hs, hd, rfl⟩, hf, rfl⟩
  · exact fun c hc => ⟨fun _ => ⟨fun h => absurd rfl h.1, hc.1⟩, hc⟩

lemma exponent_of_munch (h : exponent s = some (w, r)) : Exponent w := by
  obtain ⟨u, t, fs, hu, hf, rfl⟩ := of_followedBy h
  obtain ⟨sign, t, ds, hs, hd, rfl⟩ := of_followedBy hu
  exact exponent_iff_parts.mpr
    ⟨sign, ds, fs, sign_of_munch hs, digits_of_munch hd, fraction_of_munch hf, rfl⟩

lemma unitSegment_eq_some_iff : unitSegment s = some (w, r) ↔ ∃ ls ns, w = ls ++ ns ∧
    s = ls ++ ns ++ r ∧ ls ≠ [] ∧ (∀ c ∈ ls, isLetter c) ∧
    (∀ c ∈ (ns ++ r).head?, isLetter c = false) ∧ (ns = [] ∨ Exponent ns) ∧
    ∀ v, Exponent v → v <+: ns ++ r → v.length ≤ ns.length := by
  have hopt {s w r} := takes_exponent.optional_eq_some_iff splits_exponent exponent_of_munch
    (s := s) (w := w) (r := r)
  constructor
  · intro h
    obtain ⟨ls, t, ns, hl, hns, rfl⟩ := of_followedBy h
    obtain ⟨hn, hls, hh, rfl⟩ := run_eq_some_iff.mp hl
    obtain ⟨he, rfl, hm⟩ := hopt.mp hns
    exact ⟨ls, ns, rfl, (List.append_assoc ..).symm, hn, hls, hh, he, hm⟩
  · rintro ⟨ls, ns, rfl, rfl, hn, hls, hh, he, hm⟩
    rw [List.append_assoc]
    exact followedBy_of_some (run_eq_some_iff.mpr ⟨hn, hls, hh, rfl⟩) (hopt.mpr ⟨he, rfl, hm⟩)

lemma unitSegment_of_not_letter (h : ∀ c ∈ s.head?, isLetter c = false) : unitSegment s = none := by
  rcases hu : unitSegment s with _ | ⟨w, r⟩
  · rfl
  · obtain ⟨ls, ns, -, rfl, hn, hls, -⟩ := unitSegment_eq_some_iff.mp hu
    obtain ⟨c, ls, rfl⟩ := List.exists_cons_of_ne_nil hn
    have hc := h c rfl
    rw [hls c List.mem_cons_self] at hc
    contradiction

lemma letter_of_unitSegment (h : unitSegment s = none) : ∀ c ∈ s.head?, isLetter c = false := by
  intro c hc
  obtain ⟨t, rfl⟩ := List.head?_eq_some_iff.mp hc
  by_contra hl
  have hr := run_cons (p := isLetter) (by simpa using hl) t
  rw [unitSegment, followedBy, hr] at h
  cases h

lemma Scan.eq_of_nil (h : Scan s [] r) : s = r := by
  cases h
  rfl

lemma Scan.unitWord_eq (h : Scan s gs r) :
    unitWord s = if gs = [] then none else some (word gs, r) := by
  induction h with
  | stop hs => rw [if_pos rfl, unitWord_of_none (unitSegment_of_not_letter hs)]
  | @segment ls ns s gs r hn hl hh he hm h ih =>
    have hu := unitSegment_eq_some_iff.mpr ⟨ls, ns, rfl, rfl, hn, hl, hh, he, hm⟩
    rw [unitWord_of_some hu, ih, if_neg (List.cons_ne_nil _ _)]
    by_cases hg : gs = []
    · subst hg
      rw [if_pos rfl, h.eq_of_nil, word, List.flatMap_singleton]
    · rw [if_neg hg]
      rfl

lemma exists_scan (s : List Char) : ∃ gs r, Scan s gs r := by
  fun_induction unitWord s with
  | case1 s h => exact ⟨[], s, .stop (letter_of_unitSegment h)⟩
  | case2 s w r h _ ih =>
    obtain ⟨gs, t, hs⟩ := ih
    obtain ⟨ls, ns, rfl, rfl, hn, hl, hh, he, hm⟩ := unitSegment_eq_some_iff.mp h
    exact ⟨_, t, .segment hn hl hh he hm hs⟩
  | case3 s w r h v t _ ih =>
    obtain ⟨gs, t, hs⟩ := ih
    obtain ⟨ls, ns, rfl, rfl, hn, hl, hh, he, hm⟩ := unitSegment_eq_some_iff.mp h
    exact ⟨_, t, .segment hn hl hh he hm hs⟩

lemma Scan.eq_nil_iff (h : Scan s gs r) : gs = [] ↔ ∀ c ∈ s.head?, isLetter c = false := by
  constructor
  · rintro rfl
    cases h
    assumption
  · intro hs
    by_contra hg
    have hu := h.unitWord_eq
    rw [unitWord_of_none (unitSegment_of_not_letter hs), if_neg hg] at hu
    contradiction

lemma Scan.segmented (h : Scan s gs r) : Segmented gs (word gs) := by
  induction h with
  | stop => exact .nil
  | @segment ls ns s gs r hn hl hh he _ h ih =>
    refine .cons hn hl ?_ (fun hz => ?_) ih
    · obtain rfl | he := he
      · exact List.forall_mem_nil _
      · exact he.isLetter
    · rw [hz, List.nil_append] at hh
      exact h.eq_nil_iff.mpr hh

lemma Scan.unique {r' : List Char} (h : Scan s gs r) (h' : Scan s gs' r') : gs = gs' ∧ r = r' := by
  by_cases hg : gs = []
  · have hg' := h'.eq_nil_iff.mpr (h.eq_nil_iff.mp hg)
    subst hg hg'
    exact ⟨rfl, h.eq_of_nil.symm.trans h'.eq_of_nil⟩
  · have hg' : gs' ≠ [] := mt h'.eq_nil_iff.mp (mt h.eq_nil_iff.mpr hg)
    have hu := h.unitWord_eq
    rw [h'.unitWord_eq, if_neg hg, if_neg hg'] at hu
    obtain ⟨hw, rfl⟩ := by simpa using hu
    refine ⟨?_, rfl⟩
    rw [← h.segmented.segments_eq, ← h'.segmented.segments_eq, hw]

lemma Scan.isRead (h : Scan s gs r) : ∀ g ∈ gs, Segment.IsRead g := by
  induction h with
  | stop => exact List.forall_mem_nil _
  | segment _ _ _ he _ _ ih => exact List.forall_mem_cons.mpr ⟨he, ih⟩

/-- Where a word is taken after a number, splitting cuts it at the same places. -/
lemma Scan.split (h : Scan s gs r) : ∃ fs, Factor.split (String.ofList (word gs)) = .ok fs ∧
    List.Forall₂ Segment.Reads gs fs := by
  obtain ⟨fs, hfs⟩ := exists_reads h.isRead
  refine ⟨fs, (split_eq_ok_iff _).mpr ⟨gs, ?_, hfs⟩, hfs⟩
  rw [String.toList_ofList]
  exact h.segmented

lemma symbols_of_reads {fs : List Factor} (h : List.Forall₂ Segment.Reads gs fs) :
    fs.map Factor.symbol = gs.map fun g => String.ofList g.1 := by
  induction h with
  | nil => rfl
  | cons hg _ ih => cases hg <;> rw [List.map_cons, List.map_cons, ih]

lemma Scan.parse_isSome_iff (h : Scan s gs r) :
    (Dimension.parse (String.ofList (word gs))).toOption.isSome ↔
      ∀ g ∈ gs, NamedUnit.IsSymbol (String.ofList g.1) := by
  obtain ⟨fs, hs, hr⟩ := h.split
  have hf := List.forall_mem_map (f := Factor.symbol) (l := fs)
    (P := NamedUnit.IsSymbol)
  rw [symbols_of_reads hr, List.forall_mem_map] at hf
  rw [hf]
  rcases hp : Dimension.parse (String.ofList (word gs)) with e | d
  · refine ⟨fun h => absurd h Bool.false_ne_true, fun hk => ?_⟩
    obtain ⟨d, hd⟩ := (Dimension.parse_eq_ok_iff _).mpr ⟨fs, hs, hk⟩
    rw [hp] at hd
    cases hd
  · refine ⟨fun _ => ?_, fun _ => rfl⟩
    obtain ⟨fs', hs', hk⟩ := (Dimension.parse_eq_ok_iff _).mp ⟨d, hp⟩
    rw [hs] at hs'
    cases hs'
    exact hk

lemma isBoundary_iff : isBoundary r ↔ ∀ c ∈ r.head?, isWord c = false ∧ c ≠ '(' := by
  rcases r with _ | ⟨c, r⟩
  · simp [isBoundary]
  · simp [isBoundary]

lemma Scan.unit_of_isUnit (h : Scan s gs r) (hg : gs ≠ []) (hu : IsUnit gs r) :
    Lexeme.unit s = some (word gs, r) := by
  obtain ⟨hb, hk⟩ := hu
  have hb := isBoundary_iff.mpr hb
  have hk := h.parse_isSome_iff.mpr hk
  simp only [Lexeme.unit, h.unitWord_eq, if_neg hg, hb, hk, Bool.and_self, if_true]

lemma Scan.unit_of_not_isUnit (h : Scan s gs r) (hg : gs ≠ []) (hu : ¬ IsUnit gs r) :
    Lexeme.unit s = none := by
  rcases ho : Lexeme.unit s with _ | ⟨w, t⟩
  · rfl
  · obtain ⟨hw, hb, hk⟩ := unit_eq_some ho
    rw [h.unitWord_eq, if_neg hg] at hw
    cases hw
    exact absurd ⟨isBoundary_iff.mp hb, h.parse_isSome_iff.mp hk⟩ hu

lemma unit_of_not_letter (h : ∀ c ∈ s.head?, isLetter c = false) : Lexeme.unit s = none := by
  rcases ho : Lexeme.unit s with _ | ⟨w, t⟩
  · rfl
  · obtain ⟨hw, -⟩ := unit_eq_some ho
    rw [unitWord_of_none (unitSegment_of_not_letter h)] at hw
    contradiction

lemma ofChars_of_unit {c : Char} {t : List Char} (h : Lexeme.unit (c :: t) = some (w, r)) :
    ofChars true (c :: t) = verbatim .unit w r := by
  simp only [ofChars, unitOrNone, if_true, h]

lemma ofChars_of_not_unit (h : Lexeme.unit s = none) : ofChars true s = ofChars false s := by
  rcases s with _ | ⟨c, t⟩
  · rfl
  · simp only [ofChars, unitOrNone, if_true, h]
    rfl

lemma kind_ne_unit (s : List Char) : (ofChars false s).kind ≠ .unit := by
  rcases s with _ | ⟨c, t⟩
  · simp [ofChars]
  · simp only [ofChars, unitOrNone]
    split
    · contradiction
    · split
      · simp [verbatim]
      · exact (kind_ofCons c t).2.1

end Lexeme

namespace Cursor

open Lexeme

variable {c : Cursor} {gs : List Segment} {r : List Char} {t : Token}

/-- As if no number stood before. -/
def forget (c : Cursor) : Cursor :=
  { c with afterNumber := false }

lemma lexeme_forget (ha : c.afterNumber) (h : Lexeme.unit (splitBlanks false c.rest).2 = none) :
    c.lexeme = c.forget.lexeme := by
  rw [lexeme, ha, ofChars_of_not_unit h]
  rfl

lemma lexeme_of_isUnit {d : Char} {s : List Char} (ha : c.afterNumber)
    (hb : (splitBlanks false c.rest).2 = d :: s) (hs : Scan (d :: s) gs r) (hg : gs ≠ [])
    (hu : IsUnit gs r) : c.lexeme = verbatim .unit (word gs) r := by
  rw [lexeme, hb, ha]
  exact ofChars_of_unit (hs.unit_of_isUnit hg hu)

lemma token_forget (h : c.lexeme = c.forget.lexeme) :
    c.token = c.forget.token ∧ c.advance = c.forget.advance := by
  rw [token, token, advance, advance, h]
  exact ⟨rfl, rfl⟩

lemma letter_of_kind (h : c.token.kind = .unit) :
    c.afterNumber ∧ ∃ d, (splitBlanks false c.rest).2.head? = some d ∧ isLetter d := by
  have ha : c.afterNumber := by
    by_contra hn
    have hk : (ofChars c.afterNumber (splitBlanks false c.rest).2).kind = .unit := h
    rw [Bool.eq_false_iff.mpr hn] at hk
    exact kind_ne_unit _ hk
  obtain ⟨w, r, hu, -⟩ := unit_of_kind h
  have hl := mt unit_of_not_letter (Option.ne_none_iff_exists'.mpr ⟨_, hu⟩)
  push Not at hl
  obtain ⟨d, hd, hl⟩ := hl
  exact ⟨ha, d, hd, by simpa using hl⟩

/-- A unit is the first token only of a cursor that stands right after a number. -/
lemma number_before_unit (c : Cursor) {pre post : List Token} (h : c.tokens = pre ++ t :: post)
    (hk : t.kind = .unit) :
    (pre = [] ∧ c.afterNumber) ∨ ∃ before u, pre = before ++ [u] ∧ u.kind = .number := by
  fun_induction Cursor.tokens c generalizing pre with
  | case1 c =>
    rcases pre with _ | ⟨u, pre⟩
    · cases h
      exact .inl ⟨rfl, (letter_of_kind hk).1⟩
    · simp at h
  | case2 c _ ih =>
    rcases pre with _ | ⟨u, pre⟩
    · obtain ⟨rfl, -⟩ := List.cons.inj h
      exact .inl ⟨rfl, (letter_of_kind hk).1⟩
    · obtain ⟨rfl, ht⟩ := List.cons.inj h
      obtain ⟨rfl, ha⟩ | ⟨before, u, rfl, hu⟩ := ih ht
      · exact .inr ⟨[], c.token, rfl, by simpa [advance, token] using ha⟩
      · exact .inr ⟨c.token :: before, u, rfl, hu⟩

end Cursor

end QuantityCalculator
