/-!
Names with what they are bound to. Main statement: inserting changes one name alone.
-/

namespace QuantityCalculator

/-- Each name stands at most once. -/
abbrev Bindings (α : Type) := List (String × α)

namespace Bindings

variable {α : Type}

def get? (b : Bindings α) (name : String) : Option α :=
  b.lookup name

def insert (b : Bindings α) (name : String) (a : α) : Bindings α :=
  (name, a) :: b.filter fun p => p.1 ≠ name

def ofEntries (entries : List (String × α)) : Bindings α :=
  entries.foldl (fun b (name, a) => b.insert name a) []

theorem get?_cons (b : Bindings α) (name other : String) (a : α) :
    get? ((name, a) :: b) other = if other = name then some a else b.get? other := by
  by_cases h : other = name
  · simp [get?, h]
  · have : (other == name) = false := by simpa using h
    simp [get?, List.lookup_cons, this, h]

theorem get?_filter_ne (b : Bindings α) {name other : String} (h : other ≠ name) :
    get? (b.filter fun p => p.1 ≠ name) other = b.get? other := by
  induction b with
  | nil => rfl
  | cons p b ih =>
    obtain ⟨n, a⟩ := p
    by_cases hn : n = name
    · have : other ≠ n := hn ▸ h
      simp_all [get?_cons]
    · simp_all [get?_cons]

theorem get?_insert (b : Bindings α) (name other : String) (a : α) :
    (b.insert name a).get? other = if other = name then some a else b.get? other := by
  rw [insert, get?_cons]
  split
  · rfl
  · next h => exact get?_filter_ne b h

end Bindings

end QuantityCalculator
