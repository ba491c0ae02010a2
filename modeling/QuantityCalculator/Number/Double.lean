/-!
Doubles by their bits: what a bit pattern stands for, and the pattern nearest to a quotient of
natural numbers.
-/

namespace QuantityCalculator

/-- What a double stands for; a finite one is `± mantissa * 2 ^ exponent`. -/
inductive Double where
  | nan
  | infinite (negative : Bool)
  | finite (negative : Bool) (mantissa : Nat) (exponent : Int)
  deriving DecidableEq

namespace Double

/-- The bits of a magnitude: those of a double without its sign. -/
abbrev Magnitude := Nat

def signBit : Nat := 0x8000000000000000

/-- The magnitudes from a power of two up to the next. -/
def binade : Magnitude := 0x10000000000000

def infinity : Magnitude := 2047 * binade

def ofMagnitude (negative : Bool) (bits : Magnitude) : Double :=
  let fraction := bits % binade
  match bits / binade with
  | 0 => .finite negative fraction (-1074)
  | 2047 => if fraction = 0 then .infinite negative else .nan
  | field => .finite negative (binade + fraction) (field - 1075)

def ofFloat (x : Float) : Double :=
  let bits := x.toBits.toNat
  ofMagnitude (decide (signBit ≤ bits)) (bits % signBit)

def signed (negative : Bool) (bits : Magnitude) : Float :=
  Float.ofBits (UInt64.ofNat (if negative then signBit + bits else bits))

/-- A power with a negative exponent counts as one. -/
def raise (base : Nat) (exponent : Int) : Nat :=
  Nat.pow base exponent.toNat

/-- Rounds a quotient to a natural number, a half going to the even neighbour. -/
def roundEven (num den : Nat) : Nat :=
  let quotient := num / den
  let twice := 2 * (num % den)
  if twice < den then quotient
  else if den < twice then quotient + 1
  else quotient + quotient % 2

/-- Numerator and denominator of `num / (den * 2 ^ shift)`. -/
def scale (num den : Nat) (shift : Int) : Nat × Nat :=
  (num * raise 2 (-shift), den * raise 2 shift)

/-- The exponent of the largest power of two that is at most the positive quotient `num / den`. -/
def leadingPower (num den : Nat) : Int :=
  let estimate : Int := num.log2 - den.log2
  let (n, d) := scale num den estimate
  if d ≤ n then estimate else estimate - 1

/-- The magnitude nearest to `num / den`, a half going to the even mantissa. A mantissa that rounds
up to the next power of two carries into the exponent field by itself. -/
def nearest (num den : Nat) : Magnitude :=
  if num = 0 then 0 else
    let exponent := max (leadingPower num den - 52) (-1074)
    let (n, d) := scale num den exponent
    min infinity ((exponent + 1074).toNat * binade + roundEven n d)

end Double

end QuantityCalculator
