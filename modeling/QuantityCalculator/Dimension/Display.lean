import QuantityCalculator.Dimension.Named
import QuantityCalculator.Number.Numeral
import QuantityCalculator.Number.Rounding

/-!
Three texts of a dimension: for reading on a terminal, for typesetting, and for reading back.
-/

namespace QuantityCalculator

structure Factor where
  symbol : String
  exponent : Float
  deriving DecidableEq

namespace Factor

/-- The exponent to two places, and as an integer of at most 64 bits if it is one then. -/
def exponentText (exponent : Float) : String :=
  let rounded := Double.hundredths exponent
  match Double.integer? rounded with
  | some n => Numeral.integer (Double.clamp n)
  | none => Numeral.plain rounded

def raised : Char → Char
  | '-' => '⁻'
  | '0' => '⁰'
  | '1' => '¹'
  | '2' => '²'
  | '3' => '³'
  | '4' => '⁴'
  | '5' => '⁵'
  | '6' => '⁶'
  | '7' => '⁷'
  | '8' => '⁸'
  | '9' => '⁹'
  | '.' => 'ˑ'
  | c => c

def superscript (s : String) : String :=
  String.ofList (s.toList.map raised)

def display (f : Factor) : String :=
  if f.exponent == 1 then f.symbol else f.symbol ++ superscript (exponentText f.exponent)

def latex (f : Factor) : String :=
  if f.exponent == 1 then f.symbol
  else "\x7b" ++ f.symbol ++ "\x7d^\x7b" ++ exponentText f.exponent ++ "\x7d"

end Factor

namespace Dimension

def factors (d : Dimension) : List Factor :=
  (BaseUnit.all.map fun u => ⟨u.symbol, d.exponent u⟩).filter fun f => f.exponent != 0

def display (d : Dimension) : String :=
  match NamedUnit.ofDimension? d with
  | some u => u.symbol
  | none => " ".intercalate (d.factors.map Factor.display)

def numerator (d : Dimension) : List Factor :=
  d.factors.filter fun f => 0 < f.exponent

def denominator (d : Dimension) : List Factor :=
  (d.factors.filter fun f => f.exponent < 0).map fun f => ⟨f.symbol, f.exponent.abs⟩

def latex (d : Dimension) : String :=
  match NamedUnit.ofDimension? d with
  | some u => u.latex
  | none =>
    let top := " ".intercalate (d.numerator.map Factor.latex)
    let bottom := " ".intercalate (d.denominator.map Factor.latex)
    if bottom = "" then top
    else "\\frac\x7b" ++ (if top = "" then "1" else top) ++ "\x7d\x7b" ++ bottom ++ "\x7d"

/-- Each factor with its exact exponent, and nothing between the factors. -/
def compound (d : Dimension) : String :=
  String.join (d.factors.map fun f => f.symbol ++ Numeral.plain f.exponent)

end Dimension

end QuantityCalculator
