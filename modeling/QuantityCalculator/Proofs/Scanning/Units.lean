import QuantityCalculator.Proofs.Scanning.Blanks
import QuantityCalculator.Proofs.Scanning.Suffix

/-!
The text of a dimension as a word after a number. Main statement: it is taken whole, as one unit,
and leaves nothing of the line.
-/

namespace QuantityCalculator

open Text Munch Lexeme Double Numeral Factor

lemma Numeral.exponent_plain {x : Float} (h : x.isFinite) : Exponent (plain x).toList := by
  obtain ⟨s, w, hw, he⟩ := plain_positional h
  rw [he]
  refine .mk ?_ hw
  cases s <;> simp [minus]

namespace Lexeme

variable {f : Factor} {fs : List Factor} {d : Dimension} {r : List Char}

/-- A letter stops an exponent, and a digit or a minus stops letters. -/
lemma takes_unitSegment : Takes unitSegment
    (fun w => ∃ ls ns, (ls ≠ [] ∧ ∀ c ∈ ls, isLetter c) ∧
      (∃ x : Float, x.isFinite ∧ ns = (plain x).toList) ∧ w = ls ++ ns)
    (fun c => isLetter c) := by
  have he : Takes (Munch.optional exponent) (fun ns => ∃ x : Float, x.isFinite ∧ ns = (plain x).toList)
      (fun c => isLetter c) := takes_exponent.present.mono ?_ ?_
  · refine (takes_run.followedBy (splits_run _) he ?_ (fun _ _ => rfl)).mono ?_ ?_
    · rintro _ ⟨x, hx, rfl⟩ c hc
      exact (plain_finite hx).2 c (List.mem_of_mem_head? hc)
    · exact fun _ h => h
    · refine fun c hc => ⟨?_, hc⟩
      rintro ⟨x, hx, h⟩
      exact absurd h.symm (plain_finite hx).1
  · rintro _ ⟨x, hx, rfl⟩
    exact exponent_plain hx
  · intro c hc
    refine ⟨?_, ?_⟩
    · by_contra hn
      rw [isLetter_of_isDigit (by simpa using hn)] at hc
      contradiction
    · rintro rfl
      contradiction

lemma unitSegment_text (h : Spelled (f :: fs)) (hf : f.exponent.isFinite) :
    unitSegment (f.text ++ fs.flatMap Factor.text) = some (f.text, fs.flatMap Factor.text) := by
  apply takes_unitSegment.exact splits_unitSegment
  · exact ⟨_, _, h f List.mem_cons_self, ⟨_, hf, rfl⟩, rfl⟩
  · exact h.tail.head_text

lemma unitWord_text (h : Spelled fs) (hf : ∀ f ∈ fs, f.exponent.isFinite) (hn : fs ≠ []) :
    unitWord (fs.flatMap Factor.text) = some (fs.flatMap Factor.text, []) := by
  induction fs with
  | nil => contradiction
  | cons f fs ih =>
    rw [List.flatMap_cons, unitWord_of_some (unitSegment_text h (hf f List.mem_cons_self))]
    rcases hfs : fs with _ | ⟨g, gs⟩
    · rw [List.flatMap_nil, unitWord_of_none rfl, List.append_nil]
    · have hr := ih h.tail (fun g hg => hf g (List.mem_cons_of_mem _ hg)) (by simp [hfs])
      rw [← hfs, hr]

lemma unit_compound (hd : ∀ u, (d.exponent u).isFinite) (hn : d.factors ≠ []) :
    Lexeme.unit d.compound.toList = some (d.compound.toList, []) := by
  have hf : ∀ f ∈ d.factors, f.exponent.isFinite :=
    Dimension.exponents_factors (P := (·.isFinite = true)) hd
  obtain ⟨v, hv, -⟩ := Dimension.parse_of_finite hd
  have hw := unitWord_text d.spelled_factors hf hn
  rw [← Dimension.toList_compound] at hw
  simp only [Lexeme.unit, hw, String.ofList_toList, hv]
  rfl

end Lexeme

variable {d : Dimension} {w r : List Char} {c : Char}

namespace Dimension

lemma plain_letters (u : BaseUnit) : ∀ c ∈ u.symbol.toList, (isBlank c || c = '#') = false := by
  have h : u.symbol.toList.all fun c => !(isBlank c || c = '#') := by cases u <;> rfl
  intro c hc
  simpa using List.all_eq_true.mp h c hc

lemma head_compound (d : Dimension) :
    ∀ c ∈ d.compound.toList.head?, (isBlank c || c = '#') = false := by
  rw [toList_compound]
  rcases hf : d.factors with _ | ⟨f, fs⟩
  · simp
  · have hm : f ∈ d.factors := hf ▸ List.mem_cons_self
    obtain ⟨u, -, rfl⟩ := List.mem_map.mp (List.mem_filter.mp hm).1
    have hu := plain_letters u
    obtain ⟨c, r, hc⟩ := List.exists_cons_of_ne_nil (letters_symbol u).1
    rw [hc] at hu
    simpa [Factor.text, hc] using hu c List.mem_cons_self

end Dimension

namespace Cursor

lemma splitBlanks_space (h : ∀ c ∈ r.head?, (isBlank c || c = '#') = false) :
    splitBlanks false (' ' :: r) = ([' '], r) := by
  have hs := splitBlanks_append_of_blank (b := [' ']) (by decide) r
  rwa [splitBlanks_of_head h, List.singleton_append, List.append_nil] at hs

lemma plain_digit (h : c.isDigit) : (isBlank c || c = '#') = false := by
  have hn := toNat_of_isDigit h
  have hc : c ≠ '#' := by
    rintro rfl
    exact absurd hn.1 (by decide)
  simp [isBlank, inRanges, blanks, hc]
  omega

lemma number_tokens (hw : Positional w) (r : List Char) (place : Place) :
    ∃ place', tokens ⟨w ++ ' ' :: r, place, false⟩ =
      ⟨.number, String.ofList w, place⟩ :: tokens ⟨' ' :: r, place', true⟩ := by
  obtain ⟨c, t, rfl, hc⟩ := hw.head
  have hn := takes_number.exact (s := ' ' :: r) Lexeme.splits_number hw.literal (by simp)
  have hx : Lexeme.ofChars false (c :: t ++ ' ' :: r) =
      Lexeme.verbatim .number (c :: t) (' ' :: r) := by
    rw [List.cons_append] at hn ⊢
    simp only [Lexeme.ofChars, Lexeme.unitOrNone, hn]
    rfl
  have hb := splitBlanks_of_head (r := c :: t ++ ' ' :: r) (by simpa using plain_digit hc)
  exact tokens_first c _ hb hx rfl place

lemma compound_tokens (hd : ∀ u, (d.exponent u).isFinite) (place : Place) :
    ∃ e, e.kind = .endOfInput ∧
      (d.factors = [] ∧ tokens ⟨' ' :: d.compound.toList, place, true⟩ = [e] ∨
        d.factors ≠ [] ∧ d.compound ≠ "" ∧ ∃ place',
          tokens ⟨' ' :: d.compound.toList, place, true⟩ = [⟨.unit, d.compound, place'⟩, e]) := by
  by_cases h : d.factors = []
  · have hn : d.compound.toList = [] := by rw [Dimension.toList_compound, h, List.flatMap_nil]
    rw [hn, tokens]
    exact ⟨_, rfl, .inl ⟨h, rfl⟩⟩
  · have hu := Lexeme.unit_compound hd h
    have hn := Lexeme.unitWord_ne_nil (Lexeme.unit_eq_some hu).1
    have hx : Lexeme.ofChars true d.compound.toList =
        Lexeme.verbatim .unit d.compound.toList [] := by
      obtain ⟨c, r, hc⟩ := List.exists_cons_of_ne_nil hn
      rw [hc] at hu ⊢
      simp only [Lexeme.ofChars, Lexeme.unitOrNone, if_pos, hu]
    have ht := tokens_cons (c := ⟨' ' :: d.compound.toList, place, true⟩)
      (splitBlanks_space d.head_compound) hn hx
    simp only [Lexeme.verbatim, tokens_nil, String.ofList_toList] at ht
    have hs : d.compound ≠ "" := fun he => hn (by rw [he]; rfl)
    exact ⟨_, rfl, .inr ⟨h, hs, _, ht⟩⟩

end Cursor

end QuantityCalculator
