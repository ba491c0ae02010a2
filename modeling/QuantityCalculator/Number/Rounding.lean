import QuantityCalculator.Number.Double

/-!
Rounding a double for display, and the integer that it stands for.
-/

namespace QuantityCalculator.Double

/-- The nearest integer, a half going away from zero. The sign is kept, also that of a zero. -/
def roundAway (x : Float) : Float :=
  match ofFloat x with
  | .finite negative mantissa exponent =>
    if 0 ≤ exponent then x else
      let unit := raise 2 (-exponent)
      signed negative (nearest ((2 * mantissa + unit) / (2 * unit)) 1)
  | _ => x

/-- Rounds to two places. A zero has no sign afterwards. -/
def hundredths (x : Float) : Float :=
  let rounded := roundAway (x * 100) / 100
  if rounded == 0 then 0 else rounded

def integer? (x : Float) : Option Int :=
  match ofFloat x with
  | .finite negative mantissa exponent =>
    let unit := raise 2 (-exponent)
    if mantissa % unit = 0 then
      let magnitude : Int := (mantissa * raise 2 exponent / unit : Nat)
      some (if negative then -magnitude else magnitude)
    else none
  | _ => none

def clamp (n : Int) : Int :=
  max Int64.minValue.toInt (min n Int64.maxValue.toInt)

end QuantityCalculator.Double
