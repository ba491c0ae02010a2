/-!
Dimensions: a product of powers of the seven base units, with any double as an exponent.
-/

namespace QuantityCalculator

inductive BaseUnit where
  | second
  | kilogram
  | metre
  | ampere
  | mole
  | candela
  | kelvin
  deriving DecidableEq

namespace BaseUnit

/-- The order in which a dimension is stored and written. -/
def all : List BaseUnit :=
  [second, kilogram, metre, ampere, mole, candela, kelvin]

theorem mem_all (u : BaseUnit) : u ∈ all := by
  cases u <;> decide

def symbol : BaseUnit → String
  | second => "s"
  | kilogram => "kg"
  | metre => "m"
  | ampere => "A"
  | mole => "mol"
  | candela => "cd"
  | kelvin => "K"

end BaseUnit

structure Dimension where
  second : Float := 0
  kilogram : Float := 0
  metre : Float := 0
  ampere : Float := 0
  mole : Float := 0
  candela : Float := 0
  kelvin : Float := 0
  deriving DecidableEq

namespace Dimension

def exponent (d : Dimension) : BaseUnit → Float
  | .second => d.second
  | .kilogram => d.kilogram
  | .metre => d.metre
  | .ampere => d.ampere
  | .mole => d.mole
  | .candela => d.candela
  | .kelvin => d.kelvin

def ofExponents (f : BaseUnit → Float) : Dimension where
  second := f .second
  kilogram := f .kilogram
  metre := f .metre
  ampere := f .ampere
  mole := f .mole
  candela := f .candela
  kelvin := f .kelvin

@[simp]
theorem exponent_ofExponents (f : BaseUnit → Float) (u : BaseUnit) :
    (ofExponents f).exponent u = f u := by
  cases u <;> rfl

@[ext]
theorem ext_exponent {a b : Dimension} (h : ∀ u, a.exponent u = b.exponent u) : a = b := by
  cases a
  cases b
  simpa [exponent] using And.intro (h .second) <| And.intro (h .kilogram) <|
    And.intro (h .metre) <| And.intro (h .ampere) <| And.intro (h .mole) <|
    And.intro (h .candela) (h .kelvin)

def dimensionless : Dimension := {}

@[simp]
theorem exponent_dimensionless (u : BaseUnit) : dimensionless.exponent u = 0 := by
  cases u <;> rfl

def ofBase (u : BaseUnit) : Dimension :=
  ofExponents fun v => if v = u then 1 else 0

/-- Whether the exponents are equal as numbers: zeros of either sign are, a NaN never is. -/
def agrees (a b : Dimension) : Bool :=
  BaseUnit.all.all fun u => a.exponent u == b.exponent u

def isDimensionless (d : Dimension) : Bool :=
  d.agrees dimensionless

instance : Mul Dimension where
  mul a b := ofExponents fun u => a.exponent u + b.exponent u

instance : Div Dimension where
  div a b := ofExponents fun u => a.exponent u - b.exponent u

def power (d : Dimension) (p : Float) : Dimension :=
  ofExponents fun u => d.exponent u * p

instance : Neg Dimension where
  neg d := d

@[simp]
theorem exponent_mul (a b : Dimension) (u : BaseUnit) :
    (a * b).exponent u = a.exponent u + b.exponent u :=
  exponent_ofExponents _ u

@[simp]
theorem exponent_div (a b : Dimension) (u : BaseUnit) :
    (a / b).exponent u = a.exponent u - b.exponent u :=
  exponent_ofExponents _ u

@[simp]
theorem exponent_power (d : Dimension) (p : Float) (u : BaseUnit) :
    (d.power p).exponent u = d.exponent u * p :=
  exponent_ofExponents _ u

theorem agrees_iff (a b : Dimension) :
    a.agrees b = true ↔ ∀ u, (a.exponent u == b.exponent u) = true := by
  simp [agrees, BaseUnit.mem_all]

end Dimension

end QuantityCalculator
