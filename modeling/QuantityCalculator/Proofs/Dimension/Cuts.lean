import QuantityCalculator.Dimension.Compound
import QuantityCalculator.Proofs.Number.Written
import QuantityCalculator.Proofs.Scanning.Tokens

/-!
The text of factors and what it is cut into. Main statement: with finite exponents the factors are
cut apart again; a negative infinity leaves a bare minus, and other letters make a symbol that no
unit has.
-/

namespace QuantityCalculator.Factor

open Text Double Numeral

def text (f : Factor) : List Char :=
  f.symbol.toList ++ (plain f.exponent).toList

/-- The pieces of the text of factors that stands after the letters `ls`. -/
def cuts (ls : List Char) : List Factor → List Segment
  | [] => if ls = [] then [] else [(ls, [])]
  | f :: fs =>
    let letters := ls ++ f.symbol.toList
    match ofFloat f.exponent with
    | .finite .. => (letters, (plain f.exponent).toList) :: cuts [] fs
    | .infinite true => (letters, ['-']) :: cuts ['i', 'n', 'f'] fs
    | _ => cuts (letters ++ (plain f.exponent).toList) fs

def Spelled (fs : List Factor) : Prop :=
  ∀ f ∈ fs, f.symbol.toList ≠ [] ∧ ∀ c ∈ f.symbol.toList, isLetter c

variable {f : Factor} {fs : List Factor} {ls ns s w : List Char} {x : Float}

lemma isLetter_of_positional (h : Positional w) : ∀ c ∈ w, isLetter c = false := by
  obtain @⟨ds, fs, hd, hf⟩ := h
  intro c hc
  rcases List.mem_append.mp hc with hc | hc
  · exact isLetter_of_isDigit (hd.2 c hc)
  · cases hf with
    | none => contradiction
    | digits hf =>
      rcases List.mem_cons.mp hc with rfl | hc
      · rfl
      · exact isLetter_of_isDigit (hf.2 c hc)

lemma plain_finite (h : x.isFinite) :
    (plain x).toList ≠ [] ∧ ∀ c ∈ (plain x).toList, isLetter c = false := by
  obtain ⟨s, w, hp, hw⟩ := plain_positional h
  obtain ⟨c, r, hc, -⟩ := hp.head
  rw [hw]
  refine ⟨by simp [hc], fun c hc => ?_⟩
  rcases List.mem_append.mp hc with hc | hc
  · cases s
    · contradiction
    · rw [List.mem_singleton.mp hc]
      rfl
  · exact isLetter_of_positional hp c hc

lemma segments_cons (hl : ∀ c ∈ ls, isLetter c) (hn : ns ≠ []) (hn' : ∀ c ∈ ns, isLetter c = false)
    (hs : ∀ c ∈ s.head?, isLetter c) : segments (ls ++ ns ++ s) = (ls, ns) :: segments s := by
  obtain ⟨d, ns, rfl⟩ := List.exists_cons_of_ne_nil hn
  have hd := hn' d List.mem_cons_self
  obtain ⟨ht, hr⟩ := span_append (w := ls) (r := d :: ns ++ s) hl (by simpa using hd)
  obtain ⟨ht', hr'⟩ := span_append (p := (!isLetter ·)) (w := d :: ns) (r := s)
    (fun c hc => by simp [hn' c hc]) (fun c hc => by simp [hs c hc])
  obtain ⟨c, r, hc⟩ : ∃ c r, ls ++ (d :: ns ++ s) = c :: r :=
    List.exists_cons_of_ne_nil (by simp)
  rw [List.append_assoc, hc, segments, ← hc, ht, hr, ht', hr']

lemma Spelled.tail (h : Spelled (f :: fs)) : Spelled fs :=
  fun g hg => h g (List.mem_cons_of_mem _ hg)

lemma Spelled.head_text (h : Spelled fs) : ∀ c ∈ (fs.flatMap text).head?, isLetter c := by
  rcases fs with _ | ⟨f, fs⟩
  · simp
  · obtain ⟨hn, hl⟩ := h f List.mem_cons_self
    obtain ⟨c, r, hc⟩ := List.exists_cons_of_ne_nil hn
    rw [hc] at hl
    simpa [text, hc] using hl c List.mem_cons_self

lemma append_letters (hl : ∀ c ∈ ls, isLetter c) (hs : ∀ c ∈ s, isLetter c) :
    ∀ c ∈ ls ++ s, isLetter c :=
  fun c hc => (List.mem_append.mp hc).elim (hl c) (hs c)

lemma isNumeral_of_positional (h : Positional w) : isNumeral w := by
  have hp : ∀ {ds}, Digits ds → ∀ c ∈ ds, decide (c ≠ '.') := by
    intro ds hd c hc
    have h := hd.2 c hc
    by_contra hn
    obtain rfl : c = '.' := by simpa using hn
    contradiction
  obtain @⟨ds, fs, hd, hf⟩ := h
  cases hf with
  | none =>
    have ht := List.takeWhile_eq_self_iff.mpr (hp hd)
    have hr := List.dropWhile_eq_nil_iff.mpr (hp hd)
    simp only [isNumeral, List.append_nil, ht, hr]
    simpa [Digits] using hd
  | @digits fs hf =>
    obtain ⟨ht, hr⟩ := span_append (r := '.' :: fs) (hp hd) (by simp)
    simp only [isNumeral, ht, hr]
    simpa [Digits] using And.intro hd hf

lemma segments_text (hl : ∀ c ∈ ls, isLetter c) (h : Spelled fs) :
    segments (ls ++ fs.flatMap text) = cuts ls fs := by
  induction fs generalizing ls with
  | nil =>
    rw [List.flatMap_nil, List.append_nil, cuts]
    by_cases hn : ls = []
    · rw [if_pos hn, hn, segments]
    · rw [if_neg hn, segments_of_letters hn hl]
  | cons f fs ih =>
    have ht := h.tail
    have hl' := append_letters hl (h f List.mem_cons_self).2
    have he : ls ++ (f :: fs).flatMap text =
        (ls ++ f.symbol.toList) ++ (plain f.exponent).toList ++ fs.flatMap text := by
      simp [text]
    rw [he, cuts]
    cases hf : ofFloat f.exponent with
    | finite s m e =>
      obtain ⟨hn, hc⟩ := plain_finite (isFinite_iff.mpr ⟨s, m, e, hf⟩)
      rw [segments_cons hl' hn hc ht.head_text]
      exact congrArg _ (@ih [] (List.forall_mem_nil _) ht)
    | infinite s =>
      -- The letters of an infinity run on into the symbol that stands next.
      have hp : (plain f.exponent).toList = minus s ++ ['i', 'n', 'f'] := by
        rw [plain, write, hf, String.toList_ofList]
      have hi : ∀ c ∈ ['i', 'n', 'f'], isLetter c := List.all_eq_true.mp rfl
      cases s
      · rw [hp]
        exact ih (append_letters hl' hi) ht
      · have hm : ∀ c ∈ ['-'], isLetter c = false := List.forall_mem_singleton.mpr rfl
        have hh : ∀ c ∈ (['i', 'n', 'f'] ++ fs.flatMap text).head?, isLetter c := by
          simp
          decide
        rw [hp, minus, if_pos rfl, ← List.append_assoc, List.append_assoc _ ['i', 'n', 'f'],
          segments_cons hl' (by simp) hm hh]
        exact congrArg _ (ih hi ht)
    | nan =>
      have hp : (plain f.exponent).toList = ['N', 'a', 'N'] := by
        rw [plain, write, hf]
        rfl
      rw [hp]
      exact ih (append_letters hl' (List.all_eq_true.mp rfl)) ht

lemma readExponent_plain (h : x.isFinite) : readExponent (plain x) = .ok x := by
  obtain ⟨s, w, hp, hw⟩ := plain_positional h
  have hn : plain x ≠ "" := by simpa using (plain_finite h).1
  rw [readExponent, if_neg hn, hw, splitSign_minus hp, if_pos (isNumeral_of_positional hp),
    read_plain h]

lemma ofSegment_of_ok {numeral : List Char} (hs : ls ≠ [])
    (h : readExponent (String.ofList numeral) = .ok x) :
    ofSegment (ls, numeral) = .ok ⟨String.ofList ls, x⟩ := by
  obtain ⟨c, r, rfl⟩ := List.exists_cons_of_ne_nil hs
  rw [ofSegment, h]
  · rfl
  · simp

lemma ofSegment_minus (hs : ls ≠ []) : ofSegment (ls, ['-']) = .error (.invalidExponent "-") := by
  obtain ⟨c, r, rfl⟩ := List.exists_cons_of_ne_nil hs
  rfl

lemma Spelled.append_ne_nil (h : Spelled (f :: fs)) (ls : List Char) :
    ls ++ f.symbol.toList ≠ [] :=
  List.append_ne_nil_of_right_ne_nil ls (h f List.mem_cons_self).1

lemma ofSegment_plain (h : Spelled (f :: fs)) (hf : f.exponent.isFinite) (ls : List Char) :
    ofSegment (ls ++ f.symbol.toList, (plain f.exponent).toList) =
      .ok ⟨String.ofList (ls ++ f.symbol.toList), f.exponent⟩ := by
  apply ofSegment_of_ok (h.append_ne_nil ls)
  rw [String.ofList_toList, readExponent_plain hf]

lemma mapM_cuts (h : Spelled fs) (hf : ∀ f ∈ fs, f.exponent.isFinite) :
    (cuts [] fs).mapM ofSegment = .ok fs := by
  induction fs with
  | nil => rfl
  | cons f fs ih =>
    have hx := hf f List.mem_cons_self
    obtain ⟨s, m, e, he⟩ := isFinite_iff.mp hx
    have ht := ih h.tail fun g hg => hf g (List.mem_cons_of_mem _ hg)
    have hc := ofSegment_plain h hx []
    rw [List.nil_append, String.ofList_toList] at hc
    simp only [cuts, he, List.nil_append]
    rw [List.mapM_cons, hc, ht]
    rfl

lemma mapM_cuts_of_minus (h : Spelled fs) (hf : ∃ f ∈ fs, ofFloat f.exponent = .infinite true)
    (ls : List Char) : (cuts ls fs).mapM ofSegment = .error (.invalidExponent "-") := by
  induction fs generalizing ls with
  | nil => simp at hf
  | cons f fs ih =>
    have hf : ofFloat f.exponent = .infinite true ∨
        ∃ g ∈ fs, ofFloat g.exponent = .infinite true := by
      simpa using hf
    rw [cuts]
    cases he : ofFloat f.exponent with
    | finite s m e =>
      have hg := hf.resolve_left (by simp [he])
      have hc := ofSegment_plain h (isFinite_iff.mpr ⟨s, m, e, he⟩) ls
      simp only
      rw [List.mapM_cons, hc, ih h.tail hg]
      rfl
    | infinite s =>
      cases s
      · exact ih h.tail (hf.resolve_left (by simp [he])) _
      · simp only
        rw [List.mapM_cons, ofSegment_minus (h.append_ne_nil ls)]
        rfl
    | nan => exact ih h.tail (hf.resolve_left (by simp [he])) _

/-- Has letters that stand in no symbol of a unit. -/
def Foreign (s : List Char) : Prop :=
  ['i', 'n', 'f'] <:+: s ∨ ['N', 'a', 'N'] <:+: s

instance : Decidable (Foreign s) :=
  inferInstanceAs (Decidable (_ ∨ _))

lemma Foreign.mono (h : Foreign s) (hs : s <:+: w) : Foreign w :=
  h.imp (·.trans hs) (·.trans hs)

lemma foreign_plain (hf : ¬ x.isFinite) (hm : ofFloat x ≠ .infinite true) :
    Foreign (plain x).toList := by
  rw [plain, write]
  cases he : ofFloat x with
  | nan => exact .inr List.infix_rfl
  | infinite s =>
    cases s
    · exact .inl List.infix_rfl
    · contradiction
  | finite s m e => exact absurd (isFinite_iff.mpr ⟨s, m, e, he⟩) hf

lemma mapM_cuts_of_foreign (h : Spelled fs) (hm : ∀ f ∈ fs, ofFloat f.exponent ≠ .infinite true)
    (ls : List Char) : ∃ gs, (cuts ls fs).mapM ofSegment = .ok gs ∧
      (Foreign ls ∨ (∃ f ∈ fs, ¬ f.exponent.isFinite) → ∃ g ∈ gs, Foreign g.symbol.toList) := by
  induction fs generalizing ls with
  | nil =>
    rw [cuts]
    by_cases hn : ls = []
    · rw [if_pos hn, hn]
      exact ⟨[], rfl, by simp [Foreign]⟩
    · rw [if_neg hn, List.mapM_cons, ofSegment_of_letters hn]
      exact ⟨[⟨String.ofList ls, 1⟩], rfl, by simp⟩
  | cons f fs ih =>
    have hx := hm f List.mem_cons_self
    have ht := ih h.tail fun g hg => hm g (List.mem_cons_of_mem _ hg)
    by_cases hf : f.exponent.isFinite
    · obtain ⟨s, m, e, he⟩ := isFinite_iff.mp hf
      obtain ⟨gs, hg, hfor⟩ := ht []
      simp only [cuts, he]
      rw [List.mapM_cons, ofSegment_plain h hf ls, hg]
      refine ⟨_, rfl, ?_⟩
      rintro (hl | ⟨g, hg', hn⟩)
      · refine ⟨_, List.mem_cons_self, ?_⟩
        rw [String.toList_ofList]
        exact hl.mono (List.prefix_append _ _).isInfix
      · rcases List.mem_cons.mp hg' with rfl | hg'
        · contradiction
        · obtain ⟨k, hk, hk'⟩ := hfor (.inr ⟨g, hg', hn⟩)
          exact ⟨k, List.mem_cons_of_mem _ hk, hk'⟩
    · have hc : cuts ls (f :: fs) =
          cuts (ls ++ f.symbol.toList ++ (plain f.exponent).toList) fs := by
        cases he : ofFloat f.exponent with
        | nan => simp only [cuts, he]
        | infinite s =>
          cases s
          · simp only [cuts, he]
          · contradiction
        | finite s m e => exact absurd (isFinite_iff.mpr ⟨s, m, e, he⟩) hf
      obtain ⟨gs, hg, hfor⟩ := ht (ls ++ f.symbol.toList ++ (plain f.exponent).toList)
      have hp := (foreign_plain hf hx).mono
        (List.suffix_append (ls ++ f.symbol.toList) (plain f.exponent).toList).isInfix
      exact ⟨gs, hc ▸ hg, fun _ => hfor (.inl hp)⟩

end QuantityCalculator.Factor
