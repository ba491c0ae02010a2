import QuantityCalculator.Dimension.Compound

/-!
Quantities: a value with a dimension. Sums need equal dimensions, powers a plain exponent.
-/

namespace QuantityCalculator

structure Quantity where
  value : Float
  dimension : Dimension
  deriving DecidableEq

namespace Quantity

def dimensionless (value : Float) : Quantity :=
  ⟨value, .dimensionless⟩

/-- One of a unit. -/
def ofDimension (d : Dimension) : Quantity :=
  ⟨1, d⟩

def isDimensionless (q : Quantity) : Bool :=
  q.dimension.isDimensionless

def agrees (a b : Quantity) : Bool :=
  a.value == b.value && a.dimension.agrees b.dimension

def add (a b : Quantity) : Except UnitError Quantity :=
  (a.dimension.common b.dimension).map (⟨a.value + b.value, ·⟩)

def sub (a b : Quantity) : Except UnitError Quantity :=
  (a.dimension.common b.dimension).map (⟨a.value - b.value, ·⟩)

instance : Mul Quantity where
  mul a b := ⟨a.value * b.value, a.dimension * b.dimension⟩

instance : Div Quantity where
  div a b := ⟨a.value / b.value, a.dimension / b.dimension⟩

instance : Neg Quantity where
  neg a := ⟨-a.value, -a.dimension⟩

instance : HMul Quantity Float Quantity where
  hMul a s := ⟨a.value * s, a.dimension⟩

instance : HMul Float Quantity Quantity where
  hMul s a := a * s

instance : HDiv Quantity Float Quantity where
  hDiv a s := ⟨a.value / s, a.dimension⟩

instance : HMul Quantity Dimension Quantity where
  hMul a d := ⟨a.value, a.dimension * d⟩

instance : HDiv Quantity Dimension Quantity where
  hDiv a d := ⟨a.value, a.dimension / d⟩

def abs (a : Quantity) : Quantity :=
  ⟨a.value.abs, a.dimension⟩

def power (a : Quantity) (p : Float) : Quantity :=
  ⟨a.value.pow p, a.dimension.power p⟩

def pow (a b : Quantity) : Except UnitError Quantity :=
  if b.isDimensionless then .ok (a.power b.value) else .error (.exponentHasUnit b.dimension)

/-- The value as it is shown: to two places. -/
def shownValue (a : Quantity) : Float :=
  Double.hundredths a.value

def display (a : Quantity) : String :=
  Numeral.marked a.shownValue ++ " " ++ a.dimension.display

def latex (a : Quantity) : String :=
  Numeral.marked a.shownValue ++ " " ++ a.dimension.latex

end Quantity

end QuantityCalculator
