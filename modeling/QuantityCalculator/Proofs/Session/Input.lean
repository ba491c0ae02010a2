import Mathlib.Tactic.Lemma
import QuantityCalculator.Dialogue

/-!
The lines of an input and its bytes. Main statements: a text is cut into lines at its separators, and
bytes that encode a text are read as the lines of the text.
-/

namespace QuantityCalculator.Dialogue

def encoded (s : List Char) : List UInt8 :=
  s.flatMap String.utf8EncodeChar

/-- In a character of several bytes each of them is 128 at least. -/
lemma eq_newline_of_mem {c : Char} (h : 10 ∈ String.utf8EncodeChar c) : c = '\n' := by
  have ten {n : Nat} (h : (10 : UInt8) = UInt8.ofNat n) : n % 256 = 10 := by
    simpa using (congrArg UInt8.toNat h).symm
  revert h
  fun_cases String.utf8EncodeChar c with
  | case1 v hv =>
    intro h
    have hn := ten (List.mem_singleton.mp h)
    have hc : c.toNat = 10 := by
      change v = 10
      omega
    exact Char.toNat_inj.mp hc
  | case2 =>
    simp only [List.mem_cons, List.not_mem_nil, or_false]
    rintro (h | h)
    all_goals
      have hn := ten h
      omega
  | case3 =>
    simp only [List.mem_cons, List.not_mem_nil, or_false]
    rintro (h | h | h)
    all_goals
      have hn := ten h
      omega
  | case4 =>
    simp only [List.mem_cons, List.not_mem_nil, or_false]
    rintro (h | h | h | h)
    all_goals
      have hn := ten h
      omega

lemma encoded_eq_nil {s : List Char} : encoded s = [] ↔ s = [] := by
  rcases s with _ | ⟨c, s⟩
  · exact iff_of_true rfl rfl
  · simp [encoded, String.utf8EncodeChar_ne_nil]

/-- A text and its lines. No line holds a separator, and one stands behind each of them, but for the
last, which may end with the text if it is not empty. -/
inductive Lines {α : Type} (a : α) : List α → List (List α) → Prop
  | none : Lines a [] []
  | last {s} : s ≠ [] → a ∉ s → Lines a s [s]
  | line {l s ls} : a ∉ l → Lines a s ls → Lines a (l ++ a :: s) (l :: ls)

/-- The lines of a text with one character more before it. -/
def lengthened {α : Type} (c : α) : List (List α) → List (List α)
  | [] => [[c]]
  | l :: ls => (c :: l) :: ls

section Lines

variable {α : Type} {a c : α} {s l : List α} {ls : List (List α)}

lemma Lines.lengthened (h : c ≠ a) (hs : Lines a s ls) :
    Lines a (c :: s) (Dialogue.lengthened c ls) := by
  have hc {l : List α} (hl : a ∉ l) : a ∉ c :: l :=
    fun hm => (List.mem_cons.mp hm).elim (Ne.symm h) hl
  cases hs with
  | none => exact .last (by simp) (hc List.not_mem_nil)
  | last hn hs => exact .last (by simp) (hc hs)
  | line hl hs => exact .line (hc hl) hs

variable [DecidableEq α]

lemma splitLines_eq (a : α) (s : List α) : splitLines a s =
    if (s.splitOn a).getLast? = some [] then (s.splitOn a).dropLast else s.splitOn a := by
  rw [splitLines]
  cases s.splitOn a <;> rfl

lemma splitLines_cons_self (a : α) (s : List α) : splitLines a (a :: s) = [] :: splitLines a s := by
  have hn := List.splitOn_ne_nil a s
  rw [splitLines_eq, splitLines_eq, List.splitOn_cons_eq_if_modifyHead, if_pos (beq_self_eq_true a),
    List.getLast?_cons_of_ne_nil hn, List.dropLast_cons_of_ne_nil hn]
  split <;> rfl

lemma splitLines_cons (h : c ≠ a) (s : List α) :
    splitLines a (c :: s) = lengthened c (splitLines a s) := by
  obtain ⟨p, ps, hp⟩ := List.exists_cons_of_ne_nil (List.splitOn_ne_nil a s)
  have hs : (c :: s).splitOn a = (c :: p) :: ps := by
    rw [List.splitOn_cons_eq_if_modifyHead, if_neg (by simpa using h), hp, List.modifyHead_cons]
  rw [splitLines_eq, splitLines_eq, hs, hp]
  rcases ps with _ | ⟨q, ps⟩
  · cases p <;> rfl
  · rw [List.getLast?_cons_cons, List.getLast?_cons_cons]
    split <;> rfl

lemma lines_splitLines (a : α) (s : List α) : Lines a s (splitLines a s) := by
  induction s with
  | nil => exact .none
  | cons c s ih =>
    by_cases h : c = a
    · subst h
      rw [splitLines_cons_self]
      exact .line (l := []) List.not_mem_nil ih
    · rw [splitLines_cons h]
      exact ih.lengthened h

lemma splitLines_of_not_mem (hs : s ≠ []) (h : a ∉ s) : splitLines a s = [s] := by
  induction s with
  | nil => contradiction
  | cons c s ih =>
    rw [List.mem_cons, not_or] at h
    rw [splitLines_cons (Ne.symm h.1)]
    rcases s with _ | ⟨d, s⟩
    · rfl
    · rw [ih (by simp) h.2, lengthened]

lemma splitLines_append (h : a ∉ l) (s : List α) :
    splitLines a (l ++ a :: s) = l :: splitLines a s := by
  induction l with
  | nil => exact splitLines_cons_self a s
  | cons c l ih =>
    rw [List.mem_cons, not_or] at h
    rw [List.cons_append, splitLines_cons (Ne.symm h.1), ih h.2, lengthened]

theorem splitLines_eq_iff : splitLines a s = ls ↔ Lines a s ls := by
  constructor
  · rintro rfl
    exact lines_splitLines a s
  · intro h
    induction h with
    | none => rfl
    | last hs h => exact splitLines_of_not_mem hs h
    | line hl _ ih => rw [splitLines_append hl, ih]

end Lines

lemma Lines.encoded {s : List Char} {ls : List (List Char)} (h : Lines '\n' s ls) :
    Lines 10 (encoded s) (ls.map encoded) := by
  have hn {l : List Char} (hl : '\n' ∉ l) : 10 ∉ Dialogue.encoded l := by
    intro hm
    obtain ⟨c, hc, hb⟩ := List.mem_flatMap.mp hm
    exact hl (eq_newline_of_mem hb ▸ hc)
  induction h with
  | none => exact .none
  | last hs hl => exact .last (mt encoded_eq_nil.mp hs) (hn hl)
  | line hl _ ih =>
    rw [Dialogue.encoded, List.flatMap_append]
    exact .line (hn hl) ih

lemma splitLines_encoded (s : List Char) :
    splitLines 10 (encoded s) = (splitLines '\n' s).map encoded :=
  splitLines_eq_iff.mpr (lines_splitLines '\n' s).encoded

lemma decodeLine_encoded (s : List Char) :
    decodeLine ⟨(encoded s).toArray⟩ = some (String.ofList s) := by
  have h : (⟨(encoded s).toArray⟩ : ByteArray) = s.utf8Encode :=
    ByteArray.ext List.data_toByteArray.symm
  rw [h, decodeLine, String.fromUTF8?, dif_pos ⟨s, rfl⟩]
  rfl

lemma encoded_toList (text : String) : encoded text.toList = text.toUTF8.data.toList := by
  have h : text.toUTF8 = text.toList.utf8Encode := by
    rw [String.toUTF8_eq_toByteArray, ← String.toByteArray_ofList, String.ofList_toList]
  rw [h]
  exact List.toList_data_toByteArray.symm

theorem linesOfBytes_toUTF8 (text : String) :
    linesOfBytes text.toUTF8.data.toList = linesOfText text := by
  rw [← encoded_toList, linesOfBytes, splitLines_encoded, List.map_map]
  exact List.map_congr_left fun s _ => decodeLine_encoded s

end QuantityCalculator.Dialogue
