import QuantityCalculator.Dimension.Display
import QuantityCalculator.Text.Letter
import QuantityCalculator.Text.Run

/-!
Reading a dimension: symbols with optional exponents, one after the other.
-/

namespace QuantityCalculator

inductive UnitError where
  | mismatch (left right : Dimension)
  | unknownSymbol (symbol : String)
  | invalidExponent (numeral : String)
  | exponentHasUnit (dimension : Dimension)
  deriving DecidableEq

namespace UnitError

def message : UnitError → String
  | mismatch left right => s!"dimension mismatch: '{left.display}' vs '{right.display}'"
  | unknownSymbol symbol => s!"unknown unit symbol '{symbol}'"
  | invalidExponent numeral => s!"invalid unit exponent '{numeral}'"
  | exponentHasUnit dimension => s!"exponent must be dimensionless, got '{dimension.display}'"

end UnitError

namespace Factor

abbrev Segment := List Char × List Char

/-- Cuts a text before each letter that follows another character, and each piece after its
letters. -/
def segments (s : List Char) : List Segment :=
  match s with
  | [] => []
  | c :: r =>
    let rest := (c :: r).dropWhile Text.isLetter
    ((c :: r).takeWhile Text.isLetter, rest.takeWhile (!Text.isLetter ·)) ::
      segments (rest.dropWhile (!Text.isLetter ·))
termination_by s.length
decreasing_by
  have h₁ := Text.length_dropWhile_le (!Text.isLetter ·) ((c :: r).dropWhile Text.isLetter)
  by_cases h : Text.isLetter c
  · exact Nat.lt_of_le_of_lt h₁ (Text.length_dropWhile_lt h r)
  · have h₂ := Text.length_dropWhile_lt (p := (!Text.isLetter ·)) (c := c) (by simp [h]) r
    simpa [List.dropWhile_cons, h] using h₂

def isNumeral (s : List Char) : Bool :=
  let whole := s.takeWhile (· ≠ '.')
  let isDigits (t : List Char) : Bool := t ≠ [] && t.all Char.isDigit
  match s.dropWhile (· ≠ '.') with
  | [] => isDigits whole
  | _ :: fraction => isDigits whole && isDigits fraction

/-- Reads an exponent; one that is not written is one. -/
def readExponent (numeral : String) : Except UnitError Float :=
  if numeral = "" then .ok 1
  else if isNumeral (Numeral.splitSign numeral.toList).2 then
    match Numeral.read numeral with
    | some x => .ok x
    | none => .error (.invalidExponent numeral)
  else .error (.invalidExponent numeral)

/-- A numeral without a symbol has nothing to raise. -/
def ofSegment : Segment → Except UnitError Factor
  | ([], numeral) => .error (.unknownSymbol (String.ofList numeral))
  | (letters, numeral) => (readExponent (String.ofList numeral)).map (⟨String.ofList letters, ·⟩)

def split (s : String) : Except UnitError (List Factor) :=
  (segments s.toList).mapM ofSegment

end Factor

namespace Dimension

def ofFactor (f : Factor) : Except UnitError Dimension :=
  match NamedUnit.ofSymbol? f.symbol with
  | some u => .ok (u.dimension.power f.exponent)
  | none => .error (.unknownSymbol f.symbol)

def ofFactors (factors : List Factor) : Except UnitError Dimension :=
  factors.foldlM (fun d f => (ofFactor f).map (d * ·)) dimensionless

/-- Reads a dimension; a symbol that stands alone is looked up first. -/
def parse (s : String) : Except UnitError Dimension :=
  match NamedUnit.ofSymbol? s with
  | some u => .ok u.dimension
  | none => Factor.split s >>= ofFactors

def common (a b : Dimension) : Except UnitError Dimension :=
  if a.agrees b then .ok a else .error (.mismatch a b)

end Dimension

end QuantityCalculator
