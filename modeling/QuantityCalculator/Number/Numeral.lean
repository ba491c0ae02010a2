import QuantityCalculator.Number.Decimal

/-!
Numerals: the text of a double with the fewest digits that read back, and the reading of a literal.
-/

namespace QuantityCalculator.Numeral

open Double

def minus (negative : Bool) : List Char :=
  if negative then ['-'] else []

def integer (n : Int) : String :=
  String.ofList (minus (n < 0) ++ Nat.toDigits 10 n.natAbs)

/-- Positional digits; a point stands only before a fraction. -/
def positional (d : Decimal) : List Char :=
  match d.fraction with
  | [] => d.whole
  | fraction => d.whole ++ '.' :: fraction

/-- Positional digits, always with a point. -/
def pointed (d : Decimal) : List Char :=
  match d.fraction with
  | [] => d.whole ++ ['.', '0']
  | fraction => d.whole ++ '.' :: fraction

/-- One digit before the point, and the power of ten after an `e`. -/
def scientific (d : Decimal) : List Char :=
  let power : Int := d.exponent + (d.text.length - 1 : Nat)
  let fraction := if d.text.length = 1 then [] else '.' :: d.text.drop 1
  d.text.take 1 ++ fraction ++ 'e' :: minus (power < 0) ++ Nat.toDigits 10 power.natAbs

/-- A finite number from `10 ^ 16` up, or below `10 ^ -4` but not zero, is written with a power. -/
def general (d : Decimal) : List Char :=
  let power : Int := d.exponent + d.text.length
  if d.digits ≠ 0 ∧ (power ≤ -4 ∨ 17 ≤ power) then scientific d else pointed d

def write (finite : Decimal → List Char) (x : Float) : String :=
  match ofFloat x with
  | .nan => "NaN"
  | .infinite negative => String.ofList (minus negative ++ ['i', 'n', 'f'])
  | .finite negative mantissa exponent =>
    String.ofList (minus negative ++ finite (Decimal.ofBinary mantissa exponent).shortest)

def plain (x : Float) : String :=
  write positional x

def marked (x : Float) : String :=
  write general x

/-- Separates a leading sign; `true` stands for a minus. -/
def splitSign : List Char → Bool × List Char
  | '-' :: r => (true, r)
  | '+' :: r => (false, r)
  | r => (false, r)

def readPower : List Char → Option Int
  | [] => some 0
  | c :: r =>
    let (negative, digits) := splitSign r
    if (c = 'e' ∨ c = 'E') ∧ digits ≠ [] ∧ digits.all Char.isDigit then
      let power : Int := Nat.ofDigitChars 10 digits 0
      some (if negative then -power else power)
    else none

/-- A power that lies this far beyond the digits decides between zero and infinity already. -/
def clampPower (digits : Nat) (power : Int) : Int :=
  max (-(400 + digits : Int)) (min power (400 + digits))

/-- Reads digits with an optional point and power; one digit at least stands beside the point. -/
def readDecimal (s : List Char) : Option Decimal :=
  let whole := s.takeWhile Char.isDigit
  let rest := s.dropWhile Char.isDigit
  let (fraction, rest) :=
    match rest with
    | '.' :: r => (r.takeWhile Char.isDigit, r.dropWhile Char.isDigit)
    | r => ([], r)
  let digits := whole ++ fraction
  if digits = [] then none else
    (readPower rest).map fun power =>
      ⟨Nat.ofDigitChars 10 digits 0, clampPower digits.length power - fraction.length⟩

def readUnsigned (s : List Char) : Option Magnitude :=
  match String.ofList (s.map Char.toLower) with
  | "inf" | "infinity" => some infinity
  | "nan" => some (infinity + 1)
  | _ => (readDecimal s).map Decimal.nearest

def read (s : String) : Option Float :=
  let (negative, unsigned) := splitSign s.toList
  (readUnsigned unsigned).map (signed negative)

end QuantityCalculator.Numeral
