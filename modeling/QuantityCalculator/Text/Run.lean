/-!
Runs: what is left after the leading characters of one kind.
-/

namespace QuantityCalculator.Text

theorem length_dropWhile_le (p : Char → Bool) (s : List Char) : (s.dropWhile p).length ≤ s.length :=
  (List.dropWhile_suffix p).length_le

theorem length_dropWhile_lt {p : Char → Bool} {c : Char} (h : p c) (s : List Char) :
    ((c :: s).dropWhile p).length < (c :: s).length := by
  have := length_dropWhile_le p s
  simp [h]
  omega

theorem span_append {p : Char → Bool} {w r : List Char} (hw : ∀ c ∈ w, p c)
    (hr : ∀ c ∈ r.head?, p c = false) :
    (w ++ r).takeWhile p = w ∧ (w ++ r).dropWhile p = r := by
  have h : r.takeWhile p = [] ∧ r.dropWhile p = r := by
    rcases r with _ | ⟨c, r⟩
    · exact ⟨rfl, rfl⟩
    · simp [hr c rfl]
  rw [List.takeWhile_append_of_pos hw, List.dropWhile_append_of_pos hw, h.1, h.2, List.append_nil]
  exact ⟨rfl, rfl⟩

end QuantityCalculator.Text
