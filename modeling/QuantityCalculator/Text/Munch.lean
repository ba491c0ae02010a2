/-!
Longest pieces: readers that take a leading piece of a text, built from runs of one kind of
character.
-/

namespace QuantityCalculator.Text

/-- Takes a leading piece and gives it with what is left, or takes nothing and fails. -/
abbrev Munch := List Char → Option (List Char × List Char)

namespace Munch

def one (p : Char → Bool) : Munch
  | [] => none
  | c :: r => if p c then some ([c], r) else none

/-- The longest run of characters of one kind, if it is not empty. -/
def run (p : Char → Bool) : Munch := fun s =>
  match s.takeWhile p with
  | [] => none
  | w => some (w, s.dropWhile p)

def followedBy (a b : Munch) : Munch := fun s =>
  match a s with
  | none => none
  | some (w, r) => (b r).map fun (v, t) => (w ++ v, t)

def optional (a : Munch) : Munch := fun s =>
  some ((a s).getD ([], s))

/-- Nothing is lost: the piece and the rest are the text. -/
def Splits (a : Munch) : Prop :=
  ∀ s w r, a s = some (w, r) → w ++ r = s

theorem splits_one (p : Char → Bool) : Splits (one p) := by
  rintro (_ | ⟨c, t⟩) w r h <;> simp [one] at h
  grind

theorem splits_run (p : Char → Bool) : Splits (run p) := by
  intro s w r h
  rw [run] at h
  split at h
  · contradiction
  · obtain ⟨rfl, rfl⟩ := by simpa using h
    exact List.takeWhile_append_dropWhile

theorem run_ne_nil {p : Char → Bool} {s w r : List Char} (h : run p s = some (w, r)) : w ≠ [] := by
  rw [run] at h
  split at h
  · contradiction
  · grind

theorem Splits.followedBy {a b : Munch} (ha : Splits a) (hb : Splits b) :
    Splits (a.followedBy b) := by
  intro s w r h
  rw [Munch.followedBy] at h
  split at h
  · contradiction
  · next u t hu =>
    obtain ⟨⟨v, q⟩, hv, he⟩ := Option.map_eq_some_iff.mp h
    obtain ⟨rfl, rfl⟩ := by simpa using he
    rw [List.append_assoc, hb _ _ _ hv, ha _ _ _ hu]

theorem Splits.optional {a : Munch} (ha : Splits a) : Splits (optional a) := by
  intro s w r h
  cases hs : a s with
  | none => simp_all [Munch.optional]
  | some p =>
    obtain ⟨u, t⟩ := p
    have := ha _ _ _ hs
    simp_all [Munch.optional]

theorem Splits.length_lt {a : Munch} (ha : Splits a) {s w r : List Char} (h : a s = some (w, r))
    (hw : w ≠ []) : r.length < s.length := by
  have hn := List.length_pos_iff.mpr hw
  rw [← ha s w r h, List.length_append]
  omega

theorem run_cons {p : Char → Bool} {c : Char} (h : p c) (s : List Char) :
    run p (c :: s) = some ((c :: s).takeWhile p, (c :: s).dropWhile p) := by
  simp [run, h]

theorem followedBy_ne_nil {a b : Munch} (ha : ∀ {s w r}, a s = some (w, r) → w ≠ [])
    {s w r : List Char} (h : a.followedBy b s = some (w, r)) : w ≠ [] := by
  rw [followedBy] at h
  split at h
  · contradiction
  · next u t hu =>
    obtain ⟨⟨v, q⟩, _, he⟩ := Option.map_eq_some_iff.mp h
    obtain ⟨rfl, rfl⟩ := by simpa using he
    simp [ha hu]

end Munch

end QuantityCalculator.Text
