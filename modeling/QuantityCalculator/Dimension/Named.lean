import QuantityCalculator.Dimension.Basic

/-!
The units that have a symbol: the base units, and sixteen derived ones.
-/

namespace QuantityCalculator

structure NamedUnit where
  symbol : String
  dimension : Dimension
  deriving DecidableEq

namespace NamedUnit

def latex (u : NamedUnit) : String :=
  u.symbol

def derived : List NamedUnit :=
  [⟨"Hz", { second := -1 }⟩,
   ⟨"N", { kilogram := 1, metre := 1, second := -2 }⟩,
   ⟨"Pa", { metre := -1, kilogram := 1, second := -2 }⟩,
   ⟨"J", { kilogram := 1, metre := 2, second := -2 }⟩,
   ⟨"W", { kilogram := 1, metre := 2, second := -3 }⟩,
   ⟨"C", { second := 1, ampere := 1 }⟩,
   ⟨"V", { metre := 2, kilogram := 1, second := -3, ampere := -1 }⟩,
   ⟨"F", { metre := -2, kilogram := -1, second := 4, ampere := 2 }⟩,
   ⟨"Ω", { metre := 2, kilogram := 1, second := -3, ampere := -2 }⟩,
   ⟨"S", { metre := -2, kilogram := -1, second := 3, ampere := 2 }⟩,
   ⟨"Wb", { metre := 2, kilogram := 1, second := -2, ampere := -1 }⟩,
   ⟨"T", { kilogram := 1, second := -2, ampere := -1 }⟩,
   ⟨"H", { metre := 2, kilogram := 1, second := -2, ampere := -2 }⟩,
   ⟨"lx", { metre := -2, candela := 1 }⟩,
   ⟨"Sv", { metre := 2, second := -2 }⟩,
   ⟨"kat", { second := -1, mole := 1 }⟩]

/-- The empty symbol names the dimension of a plain number. -/
def all : List NamedUnit :=
  ⟨"", .dimensionless⟩ :: BaseUnit.all.map (fun u => ⟨u.symbol, .ofBase u⟩) ++ derived

/-- The unit that a symbol stands for. The empty symbol is written, but never read. -/
def ofSymbol? (symbol : String) : Option NamedUnit :=
  if symbol = "" then none else all.find? (·.symbol = symbol)

def ofDimension? (d : Dimension) : Option NamedUnit :=
  all.find? (·.dimension.agrees d)

/-- A symbol of the table that can be read. -/
def IsSymbol (symbol : String) : Prop :=
  symbol ≠ "" ∧ ∃ u ∈ all, u.symbol = symbol

variable {symbol : String} {u v : NamedUnit}

theorem symbols_are_unique : (all.all fun u => all.all fun v => u.symbol = v.symbol → u = v) =
    true := by
  decide +kernel

theorem eq_of_symbol_eq (hu : u ∈ all) (hv : v ∈ all) (h : u.symbol = v.symbol) : u = v :=
  of_decide_eq_true (List.all_eq_true.mp (List.all_eq_true.mp symbols_are_unique u hu) v hv) h

theorem ofSymbol?_eq_some_iff :
    ofSymbol? symbol = some u ↔ symbol ≠ "" ∧ u ∈ all ∧ u.symbol = symbol := by
  rw [ofSymbol?]
  split
  · next hs => exact iff_of_false nofun fun h => h.1 hs
  · next hs =>
    constructor
    · intro h
      exact ⟨hs, List.mem_of_find?_eq_some h, by simpa using List.find?_some h⟩
    · rintro ⟨-, hu, he⟩
      obtain ⟨v, hv⟩ : ∃ v, all.find? (·.symbol = symbol) = some v := by
        rw [← Option.isSome_iff_exists, List.find?_isSome]
        exact ⟨u, hu, decide_eq_true he⟩
      have hs : v.symbol = symbol := by simpa using List.find?_some hv
      rw [hv, eq_of_symbol_eq (List.mem_of_find?_eq_some hv) hu (hs.trans he.symm)]

theorem isSymbol_iff : IsSymbol symbol ↔ ∃ u, ofSymbol? symbol = some u := by
  simp only [ofSymbol?_eq_some_iff, IsSymbol, exists_and_left]

theorem ofSymbol?_eq_none_iff : ofSymbol? symbol = none ↔ ¬ IsSymbol symbol := by
  rw [isSymbol_iff]
  cases ofSymbol? symbol <;> simp

end NamedUnit

end QuantityCalculator
