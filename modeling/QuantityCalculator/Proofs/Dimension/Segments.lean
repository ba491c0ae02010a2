import QuantityCalculator.Proofs.Dimension.ReadBack

/-!
The text of a compound unit as segments: letters, and what stands behind them. Main statement: a text
is read if nothing but numerals stands behind letters, segment by segment also where it is one symbol.
-/

namespace QuantityCalculator

open Text

namespace Numeral

/-- The power of a unit: digits with a fraction or without, after a sign or none. -/
inductive Exponent : List Char → Prop
  | mk {sign w} : sign = [] ∨ sign = ['+'] ∨ sign = ['-'] → Positional w → Exponent (sign ++ w)

variable {w : List Char}

lemma positional_of_isNumeral (h : Factor.isNumeral w) : Positional w := by
  have hw := List.takeWhile_append_dropWhile (p := (· ≠ '.')) (l := w)
  rw [← hw]
  rw [Factor.isNumeral] at h
  rcases hd : w.dropWhile (· ≠ '.') with _ | ⟨c, fs⟩ <;> rw [hd] at h
  · exact .mk (by simpa [Digits] using h) .none
  · have hc := List.head?_dropWhile_not (· ≠ '.') w
    rw [hd] at hc
    obtain rfl : c = '.' := by simpa using hc
    have h : Digits (w.takeWhile (· ≠ '.')) ∧ Digits fs := by simpa [Digits] using h
    exact .mk h.1 (.digits h.2)

lemma Exponent.splitSign (h : Exponent w) :
    ∃ b v, Numeral.splitSign w = (b, v) ∧ Positional v := by
  obtain @⟨_, v, rfl | rfl | rfl, hv⟩ := h
  · exact ⟨false, v, hv.literal.splitSign, hv⟩
  · exact ⟨false, v, rfl, hv⟩
  · exact ⟨true, v, rfl, hv⟩

lemma exponent_iff : Exponent w ↔ Factor.isNumeral (Numeral.splitSign w).2 := by
  constructor
  · intro h
    obtain ⟨b, v, hs, hv⟩ := h.splitSign
    rw [hs]
    exact Factor.isNumeral_of_positional hv
  · intro h
    unfold Numeral.splitSign at h
    split at h
    · exact .mk (.inr (.inr rfl)) (positional_of_isNumeral h)
    · exact .mk (.inr (.inl rfl)) (positional_of_isNumeral h)
    · exact .mk (.inl rfl) (positional_of_isNumeral h)

lemma Exponent.ne_nil (h : Exponent w) : w ≠ [] := by
  rintro rfl
  obtain ⟨b, v, hs, hv⟩ := h.splitSign
  obtain ⟨c, r, hc, -⟩ := hv.head
  cases hs
  contradiction

lemma Exponent.isLetter (h : Exponent w) : ∀ c ∈ w, isLetter c = false := by
  obtain @⟨sign, v, hs, hv⟩ := h
  intro c hc
  rcases List.mem_append.mp hc with hc | hc
  · obtain rfl | rfl | rfl := hs
    · contradiction
    · rw [List.mem_singleton.mp hc]
      rfl
    · rw [List.mem_singleton.mp hc]
      rfl
  · exact Factor.isLetter_of_positional hv c hc

lemma Exponent.read (h : Exponent w) : ∃ x, Numeral.read (String.ofList w) = some x := by
  obtain ⟨b, v, hs, hv⟩ := h.splitSign
  obtain ⟨d, hd⟩ := Option.isSome_iff_exists.mp (readDecimal_of_literal hv.literal)
  refine ⟨Double.signed b d.nearest, ?_⟩
  rw [Numeral.read, String.toList_ofList, hs]
  change (readUnsigned v).map (Double.signed b) = _
  rw [readUnsigned_of_positional hv, hd]
  rfl

end Numeral

namespace Factor

open Numeral

/-- A text that begins with a letter, or is empty, is made of segments: letters, and then what is no
letter, through the next letter. -/
inductive Segmented : List Segment → List Char → Prop
  | nil : Segmented [] []
  | cons {ls ns gs s} : ls ≠ [] → (∀ c ∈ ls, isLetter c) → (∀ c ∈ ns, isLetter c = false) →
      (ns = [] → gs = []) → Segmented gs s → Segmented ((ls, ns) :: gs) (ls ++ ns ++ s)

/-- Letters without a numeral are raised to one. -/
inductive Segment.Reads : Segment → Factor → Prop
  | plain {ls} : Segment.Reads (ls, []) ⟨String.ofList ls, 1⟩
  | raised {ls ns x} : Exponent ns → Numeral.read (String.ofList ns) = some x →
      Segment.Reads (ls, ns) ⟨String.ofList ls, x⟩

def Segment.IsRead (g : Segment) : Prop :=
  g.2 = [] ∨ Exponent g.2

variable {gs : List Segment} {fs : List Factor} {f : Factor} {g : Segment} {s ls ns : List Char}
  {e : UnitError}

lemma Segmented.head (h : Segmented gs s) : ∀ c ∈ s.head?, isLetter c := by
  cases h with
  | nil => simp
  | @cons ls ns gs s hn hl =>
    obtain ⟨d, ls, rfl⟩ := List.exists_cons_of_ne_nil hn
    simpa using hl d List.mem_cons_self

lemma Segmented.segments_eq (h : Segmented gs s) : segments s = gs := by
  induction h with
  | nil => rw [segments]
  | @cons ls ns gs s hn hl hns he h ih =>
    by_cases hz : ns = []
    · obtain rfl := he hz
      cases h
      rw [hz, List.append_nil, List.append_nil, segments_of_letters hn hl]
    · rw [segments_cons hl hz hns h.head, ih]

lemma head_dropWhile {p : Char → Bool} : ∀ c ∈ (s.dropWhile p).head?, p c = false := by
  intro c hc
  have h := List.head?_dropWhile_not p s
  rwa [hc] at h

lemma segmented_segments (s : List Char) (h : ∀ c ∈ s.head?, isLetter c) :
    Segmented (segments s) s := by
  fun_induction segments s with
  | case1 => exact .nil
  | case2 c r rest ih =>
    have hr : ∀ d ∈ rest.head?, isLetter d = false := head_dropWhile
    have hn : (c :: r).takeWhile isLetter ≠ [] := by simp [h c rfl]
    have he : rest.takeWhile (!isLetter ·) = [] → segments (rest.dropWhile (!isLetter ·)) = [] := by
      intro ht
      rcases hd : rest with _ | ⟨d, t⟩
      · rw [List.dropWhile_nil, segments]
      · rw [hd] at hr ht
        simp [hr d rfl] at ht
    have hs := ih fun d hd => by simpa using head_dropWhile d hd
    have h := Segmented.cons hn (fun d hd => List.mem_takeWhile_imp hd)
      (fun d hd => by simpa using List.mem_takeWhile_imp hd) he hs
    rwa [List.append_assoc, List.takeWhile_append_dropWhile, List.takeWhile_append_dropWhile] at h

lemma ofSegment_eq (hn : ls ≠ []) :
    ofSegment (ls, ns) = (readExponent (String.ofList ns)).map (⟨String.ofList ls, ·⟩) := by
  obtain ⟨c, r, rfl⟩ := List.exists_cons_of_ne_nil hn
  rw [ofSegment]
  simp

lemma ofSegment_of_reads (hn : ls ≠ []) (h : Segment.Reads (ls, ns) f) :
    ofSegment (ls, ns) = .ok f := by
  rw [ofSegment_eq hn]
  cases h with
  | plain => rfl
  | @raised _ _ x he hx =>
    have hz : String.ofList ns ≠ "" := by simpa using he.ne_nil
    rw [readExponent, if_neg hz, String.toList_ofList, if_pos (exponent_iff.mp he), hx]
    rfl

lemma ofSegment_of_not_isRead (hn : ls ≠ []) (h : ¬ Segment.IsRead (ls, ns)) :
    ofSegment (ls, ns) = .error (.invalidExponent (String.ofList ns)) := by
  obtain ⟨hz, he⟩ := not_or.mp h
  have hz : String.ofList ns ≠ "" := by simpa using hz
  rw [ofSegment_eq hn, readExponent, if_neg hz, String.toList_ofList,
    if_neg (mt exponent_iff.mpr he)]
  rfl

lemma Segment.IsRead.reads (h : Segment.IsRead (ls, ns)) : ∃ f, Segment.Reads (ls, ns) f := by
  obtain rfl | he := h
  · exact ⟨_, .plain⟩
  · obtain ⟨x, hx⟩ := he.read
    exact ⟨_, .raised he hx⟩

lemma Segmented.letters_ne_nil (h : Segmented gs s) : ∀ g ∈ gs, g.1 ≠ [] := by
  induction h with
  | nil => exact List.forall_mem_nil _
  | cons hn _ _ _ _ ih => exact List.forall_mem_cons.mpr ⟨hn, ih⟩

lemma mapM_ofSegment_of_reads (h : List.Forall₂ Segment.Reads gs fs) (hn : ∀ g ∈ gs, g.1 ≠ []) :
    gs.mapM ofSegment = .ok fs := by
  induction h with
  | nil => rfl
  | @cons g f gs fs hg _ ih =>
    obtain ⟨hn, hns⟩ := List.forall_mem_cons.mp hn
    rw [List.mapM_cons, ofSegment_of_reads hn hg, ih hns]
    rfl

lemma mapM_ofSegment_of_not_isRead {pre post : List Segment} (hpre : ∀ h ∈ pre, h.IsRead)
    (hg : ¬ g.IsRead) (hn : ∀ h ∈ pre ++ g :: post, h.1 ≠ []) :
    (pre ++ g :: post).mapM ofSegment = .error (.invalidExponent (String.ofList g.2)) := by
  induction pre with
  | nil =>
    rw [List.nil_append, List.mapM_cons, ofSegment_of_not_isRead (hn g List.mem_cons_self) hg]
    rfl
  | cons h pre ih =>
    obtain ⟨hh, hpre⟩ := List.forall_mem_cons.mp hpre
    obtain ⟨hnh, hn⟩ := List.forall_mem_cons.mp hn
    obtain ⟨f, hf⟩ := hh.reads
    rw [List.cons_append, List.mapM_cons, ofSegment_of_reads hnh hf, ih hpre hn]
    rfl

lemma exists_reads (h : ∀ g ∈ gs, Segment.IsRead g) : ∃ fs, List.Forall₂ Segment.Reads gs fs := by
  induction gs with
  | nil => exact ⟨[], .nil⟩
  | cons g gs ih =>
    obtain ⟨hg, hgs⟩ := List.forall_mem_cons.mp h
    obtain ⟨f, hf⟩ := hg.reads
    obtain ⟨fs, hfs⟩ := ih hgs
    exact ⟨f :: fs, .cons hf hfs⟩

/-- Either all segments are read, or there is a first one that is not. -/
lemma all_read_or_first (gs : List Segment) : (∀ g ∈ gs, g.IsRead) ∨
    ∃ pre g post, gs = pre ++ g :: post ∧ (∀ h ∈ pre, h.IsRead) ∧ ¬ g.IsRead := by
  induction gs with
  | nil => exact .inl (List.forall_mem_nil _)
  | cons g gs ih =>
    by_cases hg : g.IsRead
    · rcases ih with h | ⟨pre, k, post, rfl, hpre, hk⟩
      · exact .inl (List.forall_mem_cons.mpr ⟨hg, h⟩)
      · exact .inr ⟨g :: pre, k, post, rfl, List.forall_mem_cons.mpr ⟨hg, hpre⟩, hk⟩
    · exact .inr ⟨[], g, gs, rfl, List.forall_mem_nil _, hg⟩

lemma split_of_segmented {t : String} (h : Segmented gs t.toList) :
    split t = gs.mapM ofSegment := by
  rw [split, h.segments_eq]

lemma split_of_not_letter {t : String} {c : Char} (hc : t.toList.head? = some c)
    (h : isLetter c = false) :
    split t = .error (.unknownSymbol (String.ofList (t.toList.takeWhile (!isLetter ·)))) := by
  obtain ⟨r, hr⟩ := List.head?_eq_some_iff.mp hc
  rw [split, hr, segments, List.takeWhile_cons_of_neg (by simp [h]),
    List.dropWhile_cons_of_neg (by simp [h]), List.mapM_cons]
  rfl

lemma split_eq_ok_iff (t : String) : split t = .ok fs ↔
    ∃ gs, Segmented gs t.toList ∧ List.Forall₂ Segment.Reads gs fs := by
  constructor
  · intro h
    by_cases hl : ∀ c ∈ t.toList.head?, isLetter c
    · have hs := segmented_segments t.toList hl
      refine ⟨_, hs, ?_⟩
      rw [split_of_segmented hs] at h
      rcases all_read_or_first (segments t.toList) with ha | ⟨pre, g, post, he, hpre, hg⟩
      · obtain ⟨gs, hgs⟩ := exists_reads ha
        rw [mapM_ofSegment_of_reads hgs hs.letters_ne_nil] at h
        cases h
        exact hgs
      · have hn := hs.letters_ne_nil
        rw [he] at hn
        rw [he, mapM_ofSegment_of_not_isRead hpre hg hn] at h
        cases h
    · push Not at hl
      obtain ⟨c, hc, hl⟩ := hl
      rw [split_of_not_letter hc (by simpa using hl)] at h
      cases h
  · rintro ⟨gs, hs, hr⟩
    rw [split_of_segmented hs]
    exact mapM_ofSegment_of_reads hr hs.letters_ne_nil

end Factor

namespace Dimension

open Factor

variable {fs : List Factor} {f : Factor}

lemma multiply_of_known (h : ∀ f ∈ fs, NamedUnit.IsSymbol f.symbol) (acc : Dimension) :
    ∃ d, multiply acc fs = .ok d := by
  induction fs generalizing acc with
  | nil => exact ⟨acc, rfl⟩
  | cons f fs ih =>
    obtain ⟨hf, hfs⟩ := List.forall_mem_cons.mp h
    obtain ⟨u, hu⟩ := NamedUnit.isSymbol_iff.mp hf
    rw [multiply_cons_of_some hu]
    exact ih hfs _

lemma multiply_of_unknown {pre post : List Factor}
    (hpre : ∀ g ∈ pre, NamedUnit.IsSymbol g.symbol) (hf : ¬ NamedUnit.IsSymbol f.symbol)
    (acc : Dimension) :
    multiply acc (pre ++ f :: post) = .error (.unknownSymbol f.symbol) := by
  induction pre generalizing acc with
  | nil => exact multiply_cons_of_none (NamedUnit.ofSymbol?_eq_none_iff.mpr hf)
  | cons g pre ih =>
    obtain ⟨hg, hpre⟩ := List.forall_mem_cons.mp hpre
    obtain ⟨u, hu⟩ := NamedUnit.isSymbol_iff.mp hg
    rw [List.cons_append, multiply_cons_of_some hu]
    exact ih hpre _

lemma known_of_multiply {acc d : Dimension} (h : multiply acc fs = .ok d) :
    ∀ f ∈ fs, NamedUnit.IsSymbol f.symbol := by
  induction fs generalizing acc with
  | nil => exact List.forall_mem_nil _
  | cons f fs ih =>
    rcases hu : NamedUnit.ofSymbol? f.symbol with _ | u
    · rw [multiply_cons_of_none hu] at h
      cases h
    · rw [multiply_cons_of_some hu] at h
      exact List.forall_mem_cons.mpr ⟨NamedUnit.isSymbol_iff.mpr ⟨u, hu⟩, ih h⟩

lemma all_times_one : (NamedUnit.all.all fun u =>
    dimensionless * u.dimension.power 1 = u.dimension) = true := by
  decide +kernel

/-- A symbol that stands alone is read as every other compound would be. -/
lemma parse_eq (s : String) : parse s = Factor.split s >>= ofFactors := by
  rcases hu : NamedUnit.ofSymbol? s with _ | u
  · rw [parse, hu]
  · obtain ⟨-, hm, -⟩ := NamedUnit.ofSymbol?_eq_some_iff.mp hu
    have hone : dimensionless * u.dimension.power 1 = u.dimension := by
      simpa using List.all_eq_true.mp all_times_one u hm
    have hm : multiply dimensionless [⟨s, 1⟩] = .ok u.dimension := by
      rw [multiply_cons_of_some hu, hone]
      rfl
    rw [parse, hu, split_of_ofSymbol? hu]
    exact hm.symm

lemma parse_of_split {s : String} (h : Factor.split s = .ok fs) :
    parse s = multiply dimensionless fs := by
  rw [parse_eq, h]
  rfl

lemma parse_of_split_error {s : String} {e : UnitError} (h : Factor.split s = .error e) :
    parse s = .error e := by
  rw [parse_eq, h]
  rfl

lemma parse_eq_ok_iff (s : String) : (∃ d, parse s = .ok d) ↔
    ∃ fs, Factor.split s = .ok fs ∧ ∀ f ∈ fs, NamedUnit.IsSymbol f.symbol := by
  constructor
  · rintro ⟨d, hd⟩
    rcases hs : Factor.split s with e | fs
    · rw [parse_of_split_error hs] at hd
      cases hd
    · rw [parse_of_split hs] at hd
      exact ⟨fs, rfl, known_of_multiply hd⟩
  · rintro ⟨fs, hs, hk⟩
    rw [parse_of_split hs]
    exact multiply_of_known hk dimensionless

/-- A compound is split exactly if it is made of letters with a numeral or without, in one way only.
What stands before any letter is an unknown symbol; else the first piece behind letters that is no
numeral is refused. Any text is read as the product of what it is split into, and the first symbol
that no unit has is refused. -/
theorem parse_by_segments (s : String) :
    (∀ fs, Factor.split s = .ok fs ↔
      ∃ gs, Segmented gs s.toList ∧ List.Forall₂ Segment.Reads gs fs) ∧
    (∀ gs gs', Segmented gs s.toList → Segmented gs' s.toList → gs = gs') ∧
    (∀ c, s.toList.head? = some c → isLetter c = false → Factor.split s =
      .error (.unknownSymbol (String.ofList (s.toList.takeWhile (!isLetter ·))))) ∧
    ((∀ c ∈ s.toList.head?, isLetter c) → ∃ gs, Segmented gs s.toList ∧
      ∀ pre g post, gs = pre ++ g :: post → (∀ h ∈ pre, h.IsRead) → ¬ g.IsRead →
        Factor.split s = .error (.invalidExponent (String.ofList g.2))) ∧
    parse s = Factor.split s >>= ofFactors ∧
    ((∃ d, parse s = .ok d) ↔
      ∃ fs, Factor.split s = .ok fs ∧ ∀ f ∈ fs, NamedUnit.IsSymbol f.symbol) ∧
    (∀ e, Factor.split s = .error e → parse s = .error e) ∧
    ∀ pre f post, Factor.split s = .ok (pre ++ f :: post) →
      (∀ g ∈ pre, NamedUnit.IsSymbol g.symbol) → ¬ NamedUnit.IsSymbol f.symbol →
        parse s = .error (.unknownSymbol f.symbol) := by
  refine ⟨fun fs => split_eq_ok_iff s, ?unique, fun c => split_of_not_letter, ?refused, parse_eq s,
    parse_eq_ok_iff s, fun e => parse_of_split_error, ?unknown⟩
  case unique =>
    intro gs gs' h h'
    rw [← h.segments_eq, h'.segments_eq]
  case refused =>
    intro hl
    have hs := segmented_segments s.toList hl
    refine ⟨_, hs, fun pre g post he hpre hg => ?_⟩
    have hn := hs.letters_ne_nil
    rw [he] at hn
    rw [split_of_segmented hs, he]
    exact mapM_ofSegment_of_not_isRead hpre hg hn
  case unknown =>
    intro pre f post hs hpre hf
    rw [parse_of_split hs]
    exact multiply_of_unknown hpre hf dimensionless

end Dimension

end QuantityCalculator
