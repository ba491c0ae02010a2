import QuantityCalculator.Proofs.Number.Nearest
import QuantityCalculator.Proofs.Scanning.Literals

/-!
Written numbers: digits with a fraction or without. Main statement: a finite double is read back
from its text.
-/

namespace QuantityCalculator

open Text Double

namespace Decimal

variable (d : Decimal)

lemma isDigit_padded : ∀ c ∈ d.padded, c.isDigit := by
  intro c hc
  simp only [padded, List.mem_append, List.mem_replicate] at hc
  obtain (⟨-, rfl⟩ | hc) | ⟨-, rfl⟩ := hc
  · rfl
  · exact Nat.isDigit_of_mem_toDigits (by decide) (by decide) hc
  · rfl

lemma places_lt_length_padded : d.places < d.padded.length := by
  simp only [padded, List.length_append, List.length_replicate]
  omega

lemma ofDigitChars_padded :
    Nat.ofDigitChars 10 d.padded 0 = d.digits * raise 10 d.exponent := by
  rw [padded, Nat.ofDigitChars_append, Nat.ofDigitChars_append, Nat.ofDigitChars_replicate_zero,
    Nat.ofDigitChars_replicate_zero, Nat.mul_zero, text, Nat.ofDigitChars_ten_toDigits,
    Nat.mul_comm]
  rfl

lemma whole_append_fraction : d.whole ++ d.fraction = d.padded :=
  List.take_append_drop _ _

lemma length_fraction : d.fraction.length = d.places := by
  have h := d.places_lt_length_padded
  rw [fraction, List.length_drop]
  omega

lemma digits_whole : Numeral.Digits d.whole := by
  have h := d.places_lt_length_padded
  refine ⟨fun hn => ?_, fun c hc => d.isDigit_padded c (List.mem_of_mem_take hc)⟩
  have hl := congrArg List.length hn
  rw [whole, List.length_take, List.length_nil] at hl
  omega

lemma isDigit_fraction : ∀ c ∈ d.fraction, c.isDigit :=
  fun c hc => d.isDigit_padded c (List.mem_of_mem_drop hc)

lemma nearest_padded :
    nearest ⟨d.digits * raise 10 d.exponent, -d.places⟩ = d.nearest := by
  have hz : raise 10 (-d.places) = 1 := by
    have h : (-(d.places : Int)).toNat = 0 := by omega
    rw [raise, h]
  have hp : raise 10 (- -d.places) = raise 10 (-d.exponent) := by
    rw [Int.neg_neg]
    rfl
  simp only [nearest, hz, hp, Nat.mul_one]

end Decimal

namespace Numeral

/-- Digits with a fraction or without. -/
inductive Positional : List Char → Prop
  | mk {ds fs} : Digits ds → Fraction fs → Positional (ds ++ fs)

variable {w : List Char} {x : Float} {s : Bool} {m : Nat} {e : Int}

lemma Positional.literal (h : Positional w) : Literal w := by
  obtain @⟨ds, fs, hd, hf⟩ := h
  have hl := Literal.mk hd hf .none
  rwa [List.append_nil] at hl

lemma positional_positional (d : Decimal) : Positional (positional d) := by
  have hw := d.digits_whole
  rw [positional]
  cases h : d.fraction with
  | nil =>
    have hp := Positional.mk hw .none
    rwa [List.append_nil] at hp
  | cons c fs =>
    refine .mk hw (.digits ⟨List.cons_ne_nil _ _, fun a ha => ?_⟩)
    exact d.isDigit_fraction a (h ▸ ha)

lemma clampPower_zero (n : Nat) : clampPower n 0 = 0 := by
  rw [clampPower]
  omega

lemma readDecimal_positional (d : Decimal) :
    readDecimal (positional d) = some ⟨d.digits * raise 10 d.exponent, -d.places⟩ := by
  have hw := d.digits_whole
  have hp := d.whole_append_fraction
  have hl := d.length_fraction
  have hd := d.isDigit_fraction
  rw [positional, ← d.ofDigitChars_padded, ← hp, ← hl]
  cases h : d.fraction with
  | nil =>
    obtain ⟨ht, hr⟩ := hw.span (r := []) (by simp)
    rw [List.append_nil] at ht hr
    simp [readDecimal, ht, hr, hw.1, readPower, clampPower_zero]
  | cons c fs =>
    rw [h] at hd
    obtain ⟨ht, hr⟩ := hw.span (r := '.' :: c :: fs) (by simp)
    have ht' : (c :: fs).takeWhile Char.isDigit = c :: fs := List.takeWhile_eq_self_iff.mpr hd
    have hr' : (c :: fs).dropWhile Char.isDigit = [] := List.dropWhile_eq_nil_iff.mpr hd
    rw [readDecimal, ht, hr]
    simp only [ht', hr', readPower, clampPower_zero, Option.map_some]
    simp [hw.1]

lemma Positional.head (h : Positional w) : ∃ c r, w = c :: r ∧ c.isDigit := by
  obtain @⟨ds, fs, ⟨hn, hd⟩, -⟩ := h
  obtain ⟨c, r, rfl⟩ := List.exists_cons_of_ne_nil hn
  exact ⟨c, r ++ fs, rfl, hd c List.mem_cons_self⟩

lemma toLower_of_isDigit {c : Char} (h : c.isDigit) : c.toLower = c := by
  have hc := toNat_of_isDigit h
  rw [Char.toLower]
  split
  · next hu =>
    have hl : 65 ≤ c.toNat := hu.1
    omega
  · rfl

lemma readUnsigned_of_positional (h : Positional w) :
    readUnsigned w = (readDecimal w).map Decimal.nearest := by
  obtain ⟨c, r, rfl, hc⟩ := h.head
  have hs : ∀ {d t}, String.ofList ((c :: r).map Char.toLower) = String.ofList (d :: t) →
      d.isDigit := by
    intro d t he
    have hl := String.ofList_inj.mp he
    rw [List.map_cons, toLower_of_isDigit hc] at hl
    obtain ⟨rfl, -⟩ := List.cons.inj hl
    exact hc
  rw [readUnsigned]
  split
  · next he => exact absurd (hs (d := 'i') he) (by decide)
  · next he => exact absurd (hs (d := 'i') he) (by decide)
  · next he => exact absurd (hs (d := 'n') he) (by decide)
  · rfl

lemma splitSign_minus (h : Positional w) (s : Bool) : splitSign (minus s ++ w) = (s, w) := by
  cases s
  · exact h.literal.splitSign
  · rfl

lemma plain_of_finite (h : ofFloat x = .finite s m e) :
    (plain x).toList = minus s ++ positional (Decimal.ofBinary m e).shortest := by
  rw [plain, write, h, String.toList_ofList]

lemma plain_positional (h : x.isFinite) :
    ∃ s w, Positional w ∧ (plain x).toList = minus s ++ w := by
  obtain ⟨s, m, e, hf⟩ := isFinite_iff.mp h
  exact ⟨s, _, positional_positional _, plain_of_finite hf⟩

lemma read_written {b : Nat} (hc : Canonical m e) (hi : b < infinity)
    (hb : b = (e + 1074).toNat * binade + m) (s : Bool) :
    read (String.ofList (minus s ++ positional (Decimal.ofBinary m e).shortest)) =
      some (signed s b) := by
  have hp := positional_positional (Decimal.ofBinary m e).shortest
  have hn : Decimal.nearest ⟨_, _⟩ = b := (Decimal.nearest_padded _).trans
    ((Decimal.nearest_shortest _).trans (Decimal.nearest_ofBinary hc hi hb))
  rw [read, String.toList_ofList, splitSign_minus hp]
  change (readUnsigned _).map (signed s) = _
  rw [readUnsigned_of_positional hp, readDecimal_positional, Option.map_some, hn]
  rfl

lemma read_plain (h : x.isFinite) : read (plain x) = some x := by
  obtain ⟨s, m, e, hf⟩ := isFinite_iff.mp h
  obtain ⟨hc, b, hi, rfl, hb⟩ := signed_of_finite hf
  rw [← String.ofList_toList (s := plain _), plain_of_finite hf, read_written hc hi hb]

lemma positional_natural (n : Nat) : positional ⟨n, 0⟩ = Nat.toDigits 10 n := by
  have hl : 0 < (Nat.toDigits 10 n).length := List.length_pos_iff.mpr (Nat.toDigits_ne_nil)
  have hp : Decimal.padded ⟨n, 0⟩ = Nat.toDigits 10 n := by
    have hz : 0 + 1 - (Nat.toDigits 10 n).length = 0 := by omega
    simp [Decimal.padded, Decimal.places, Decimal.text, hz]
  simp [positional, Decimal.fraction, Decimal.whole, hp, Decimal.places]

lemma read_integer (k : Int) :
    read (integer k) = some (signed (k < 0) (Double.nearest k.natAbs 1)) := by
  have hp := positional_positional ⟨k.natAbs, 0⟩
  rw [read, integer, String.toList_ofList, ← positional_natural, splitSign_minus hp]
  change (readUnsigned _).map (signed _) = _
  rw [readUnsigned_of_positional hp, readDecimal_positional]
  simp [Decimal.nearest, Double.raise, Decimal.places]

end Numeral

end QuantityCalculator
