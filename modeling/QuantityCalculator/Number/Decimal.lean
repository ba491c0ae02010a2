import QuantityCalculator.Number.Double

/-!
Decimals, the double nearest to one, and the shortest decimal that reads back as a given double.
-/

namespace QuantityCalculator

structure Decimal where
  digits : Nat
  exponent : Int
  deriving DecidableEq

namespace Decimal

def nearest (d : Decimal) : Double.Magnitude :=
  Double.nearest (d.digits * Double.raise 10 d.exponent) (Double.raise 10 (-d.exponent))

/-- The decimal equal to `mantissa * 2 ^ exponent`: a half is five tenths. -/
def ofBinary (mantissa : Nat) (exponent : Int) : Decimal :=
  ⟨mantissa * Double.raise 2 exponent * Double.raise 5 (-exponent), min exponent 0⟩

def text (d : Decimal) : List Char :=
  Nat.toDigits 10 d.digits

/-- The two neighbours of `d` among the decimals without its last digits, the nearer one first and
the greater one first when both are as near. -/
def neighbours (d : Decimal) (dropped : Nat) : List Decimal :=
  let unit := Nat.pow 10 dropped
  let lower : Decimal := ⟨d.digits / unit, d.exponent + dropped⟩
  let upper : Decimal := ⟨d.digits / unit + 1, d.exponent + dropped⟩
  if 2 * (d.digits % unit) < unit then [lower, upper] else [upper, lower]

/-- The shortest decimal with the same nearest double as `d`. With no digit kept, the upper
neighbour is the power of ten above `d`, so no digits end in a zero; seventeen digits always
suffice. -/
def shortest (d : Decimal) : Decimal :=
  if d.digits = 0 then ⟨0, 0⟩ else
    let length := d.text.length
    let candidates := (List.range 18).flatMap fun kept => d.neighbours (length - kept)
    (candidates.find? (·.nearest == d.nearest)).getD d

theorem nearest_zero (e : Int) : nearest ⟨0, e⟩ = 0 := by
  simp [nearest, Double.nearest]

theorem nearest_shortest (d : Decimal) : d.shortest.nearest = d.nearest := by
  rw [shortest]
  split
  · next h => obtain ⟨m, e⟩ := d; simp_all [nearest_zero]
  · simp only
    generalize (List.range 18).flatMap _ = candidates
    cases h : candidates.find? (·.nearest == d.nearest) with
    | none => rfl
    | some e => simpa using List.find?_some h

def places (d : Decimal) : Nat :=
  (-d.exponent).toNat

/-- All digits of the positional form, with at least one before the point. -/
def padded (d : Decimal) : List Char :=
  List.replicate (d.places + 1 - d.text.length) '0' ++ d.text ++ List.replicate d.exponent.toNat '0'

def whole (d : Decimal) : List Char :=
  d.padded.take (d.padded.length - d.places)

def fraction (d : Decimal) : List Char :=
  d.padded.drop (d.padded.length - d.places)

end Decimal

end QuantityCalculator
