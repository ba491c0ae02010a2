import QuantityCalculator.Error
import QuantityCalculator.Line.Phrase

/-!
Functions: the builtin ones, and those that a line defines.
-/

namespace QuantityCalculator

inductive Builtin where
  | sqrt
  | sin
  | cos
  | tan
  | ln
  | log
  | exp
  deriving DecidableEq

namespace Builtin

def all : List Builtin :=
  [sqrt, sin, cos, tan, ln, log, exp]

def name : Builtin → String
  | sqrt => "sqrt"
  | sin => "sin"
  | cos => "cos"
  | tan => "tan"
  | ln => "ln"
  | log => "log"
  | exp => "exp"

def ofName? (name : String) : Option Builtin :=
  all.find? (·.name = name)

def arity : Builtin → Arity
  | log => ⟨1, 2⟩
  | _ => ⟨1, 1⟩

def plain (f : Builtin) (q : Quantity) : Except Error Float :=
  if q.isDimensionless then .ok q.value else .error (.argumentHasUnit f.name q.dimension)

def elementary (f : Builtin) (g : Float → Float) (q : Quantity) : Except Error Quantity :=
  (f.plain q).map fun x => .dimensionless (g x)

/-- The root of any quantity; the other functions take plain numbers alone. -/
def apply : Builtin → List Quantity → Except Error Quantity
  | sqrt, [q] => .ok (q.power 0.5)
  | sin, [q] => sin.elementary Float.sin q
  | cos, [q] => cos.elementary Float.cos q
  | tan, [q] => tan.elementary Float.tan q
  | ln, [q] => ln.elementary Float.log q
  | log, [q] => log.elementary Float.log q
  | log, [q, base] => do
    let x ← log.plain q
    let b ← log.plain base
    return .dimensionless (x.log / b.log)
  | exp, [q] => exp.elementary Float.exp q
  | f, arguments => .error (.wrongArity f.name f.arity arguments.length)

end Builtin

structure UserFunction where
  name : String
  parameters : List String
  body : Phrase

def UserFunction.arity (f : UserFunction) : Arity :=
  ⟨f.parameters.length, f.parameters.length⟩

inductive Function where
  | builtin (function : Builtin)
  | user (function : UserFunction)

end QuantityCalculator
