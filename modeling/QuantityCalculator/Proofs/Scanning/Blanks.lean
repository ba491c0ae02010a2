import Mathlib.Data.List.TakeWhile
import Mathlib.Tactic.Lemma
import QuantityCalculator.Line.Cursor
import QuantityCalculator.Text.Run

/-!
Blanks before and behind a text.
-/

namespace QuantityCalculator

namespace Text

def Blank (s : List Char) : Prop :=
  ∀ c ∈ s, isBlank c

/-- No blank stands at either end. -/
def Trimmed (s : List Char) : Prop :=
  (∀ c ∈ s.head?, isBlank c = false) ∧ ∀ c ∈ s.getLast?, isBlank c = false

instance (s : List Char) : Decidable (Blank s) :=
  List.decidableBAll (isBlank ·) s

instance (s : List Char) : Decidable (Trimmed s) :=
  decidable_of_iff (s.head?.all (!isBlank ·) ∧ s.getLast?.all (!isBlank ·))
    (by simp [Trimmed, Option.all_eq_true])

variable {s b : List Char} {c : Char}

lemma blanks_are_not_words : (blanks.all fun (first, last) =>
    (List.range' first (last + 1 - first)).all fun n => !isWord (Char.ofNat n)) = true := by
  decide +kernel

lemma isWord_of_isBlank (h : isBlank c) : isWord c = false := by
  obtain ⟨⟨first, last⟩, hm, hc⟩ := List.any_eq_true.mp h
  obtain ⟨hl, hu⟩ : first ≤ c.toNat ∧ c.toNat ≤ last := by simpa using hc
  have hn := List.all_eq_true.mp (List.all_eq_true.mp blanks_are_not_words _ hm) c.toNat
    (List.mem_range'_1.mpr ⟨hl, by omega⟩)
  simpa using hn

lemma trim_append_blank (hs : Trimmed s) (hb : Blank b) : trim (s ++ b) = s := by
  obtain ⟨hh, hl⟩ := hs
  rcases s with _ | ⟨c, s⟩
  · rw [trim, List.nil_append, List.dropWhile_eq_nil_iff.mpr hb]
    rfl
  · have hb' : ∀ c ∈ b.reverse, isBlank c := fun c hc => hb c (List.mem_reverse.mp hc)
    have hr : (c :: s ++ b).dropWhile isBlank = c :: s ++ b :=
      (span_append (w := []) (r := c :: s ++ b) (List.forall_mem_nil _) hh).2
    rw [← List.head?_reverse] at hl
    rw [trim, hr, List.reverse_append, (span_append hb' hl).2, List.reverse_reverse]

end Text

open Text

variable {b p c r : List Char}

lemma splitBlanks_of_head (h : ∀ d ∈ r.head?, (isBlank d || d = '#') = false) :
    splitBlanks false r = ([], r) := by
  rcases r with _ | ⟨d, r⟩
  · rfl
  · rw [splitBlanks, if_neg Bool.false_ne_true, if_neg (by simp [h d rfl])]

lemma splitBlanks_append_of_blank (h : Blank b) (r : List Char) :
    splitBlanks false (b ++ r) = (b ++ (splitBlanks false r).1, (splitBlanks false r).2) := by
  induction b with
  | nil => rfl
  | cons c b ih =>
    have hc : isBlank c := h c List.mem_cons_self
    have hn : c ≠ '#' := by
      rintro rfl
      contradiction
    rw [List.cons_append, splitBlanks, if_neg Bool.false_ne_true, if_pos (by simp [hc]),
      decide_eq_false hn, ih fun d hd => h d (List.mem_cons_of_mem c hd)]
    rfl

lemma trim_splitBlanks (hb : Blank b) (hp : Trimmed p) (hn : p.head? ≠ some '#') (hc : Blank c) :
    trim (splitBlanks false (b ++ (p ++ c))).2 = p := by
  rw [splitBlanks_append_of_blank hb]
  rcases p with _ | ⟨d, p⟩
  · have h := splitBlanks_append_of_blank hc []
    rw [List.append_nil] at h
    rw [List.nil_append, h]
    rfl
  · have hd : ∀ e ∈ (d :: p ++ c).head?, (isBlank e || e = '#') = false := by
      rintro e he
      have hb := hp.1 e he
      have hs : e ≠ '#' := fun h => hn (h ▸ he)
      simp [hb, hs]
    rw [splitBlanks_of_head hd]
    exact trim_append_blank hp hc

end QuantityCalculator
