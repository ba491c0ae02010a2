import QuantityCalculator.Proofs.Number.Written

/-!
The characters that numbers are written with.
-/

namespace QuantityCalculator.Numeral

def figures : List Char :=
  ['0', '1', '2', '3', '4', '5', '6', '7', '8', '9', '-', '.', 'e', 'i', 'n', 'f', 'N', 'a']

variable {s t : List Char} {c : Char}

/-- A text of figures and nothing else. -/
def Figures (s : List Char) : Prop :=
  ∀ c ∈ s, c ∈ figures

instance (s : List Char) : Decidable (Figures s) :=
  List.decidableBAll (· ∈ figures) s

lemma mem_figures_of_isDigit (h : c.isDigit) : c ∈ figures := by
  have hd : ((List.range' 48 10).all fun n => Char.ofNat n ∈ figures) = true := by decide +kernel
  obtain ⟨hl, hu⟩ := Text.toNat_of_isDigit h
  have hm := List.all_eq_true.mp hd c.toNat (List.mem_range'_1.mpr ⟨hl, by omega⟩)
  simpa using hm

lemma figures_of_isDigit (h : ∀ c ∈ s, c.isDigit) : Figures s :=
  fun c hc => mem_figures_of_isDigit (h c hc)

lemma figures_cons : Figures (c :: s) ↔ c ∈ figures ∧ Figures s :=
  List.forall_mem_cons

lemma figures_append : Figures (s ++ t) ↔ Figures s ∧ Figures t :=
  List.forall_mem_append

lemma figures_minus (b : Bool) : Figures (minus b) := by
  cases b
  · exact nofun
  · exact fun c hc => List.mem_singleton.mp hc ▸ by decide

lemma figures_toDigits (n : Nat) : Figures (Nat.toDigits 10 n) :=
  figures_of_isDigit fun _ hc => Nat.isDigit_of_mem_toDigits (by decide) (by decide) hc

lemma figures_integer (n : Int) : Figures (integer n).toList := by
  rw [integer, String.toList_ofList]
  exact figures_append.mpr ⟨figures_minus _, figures_toDigits _⟩

lemma Positional.figures (h : Positional s) : Figures s := by
  obtain @⟨ds, fs, hd, hf⟩ := h
  refine figures_append.mpr ⟨figures_of_isDigit hd.2, ?_⟩
  cases hf with
  | none => exact nofun
  | digits hf => exact figures_cons.mpr ⟨by decide, figures_of_isDigit hf.2⟩

lemma figures_general (d : Decimal) : Figures (general d) := by
  have hw := figures_of_isDigit d.digits_whole.2
  have hf := figures_of_isDigit d.isDigit_fraction
  have ht : Figures d.text := figures_toDigits _
  rw [general]
  split
  · have hl : Figures (d.text.take 1) := fun c hc => ht c (List.mem_of_mem_take hc)
    have hr : Figures (d.text.drop 1) := fun c hc => ht c (List.mem_of_mem_drop hc)
    have he (n : Int) : Figures ('e' :: minus (n < 0) ++ Nat.toDigits 10 n.natAbs) :=
      figures_cons.mpr ⟨by decide, figures_append.mpr ⟨figures_minus _, figures_toDigits _⟩⟩
    rw [scientific]
    simp only [List.append_assoc]
    refine figures_append.mpr ⟨hl, figures_append.mpr ⟨?_, he _⟩⟩
    split
    · exact nofun
    · exact figures_cons.mpr ⟨by decide, hr⟩
  · rw [pointed]
    split
    · exact figures_append.mpr ⟨hw, by decide⟩
    · exact figures_append.mpr ⟨hw, figures_cons.mpr ⟨by decide, hf⟩⟩

lemma figures_write {f : Decimal → List Char} (hf : ∀ d, Figures (f d)) (x : Float) :
    Figures (write f x).toList := by
  rw [write]
  split
  · decide
  · rw [String.toList_ofList]
    exact figures_append.mpr ⟨figures_minus _, by decide⟩
  · rw [String.toList_ofList]
    exact figures_append.mpr ⟨figures_minus _, hf _⟩

lemma figures_plain (x : Float) : Figures (plain x).toList :=
  figures_write (fun d => (positional_positional d).figures) x

end QuantityCalculator.Numeral
