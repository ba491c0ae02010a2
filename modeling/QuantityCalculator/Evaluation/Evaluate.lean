import QuantityCalculator.Evaluation.Environment

/-!
Evaluating a phrase in an environment. Operands come before their operator, from left to right, and
the first failure ends the evaluation; the frame of a call is left whatever its body comes to.
-/

namespace QuantityCalculator

abbrev Eval := ExceptT Error (StateM Environment)

namespace Eval

def ofResult : Except Error α → Eval α
  | .ok a => return a
  | .error e => throw e

def ofUnit : Except UnitError α → Eval α
  | .ok a => return a
  | .error e => throw (.unit e)

def quantity : Outcome → Eval Quantity
  | .value q => return q
  | .signal s => throw (.evaluation (.notAValue s))

def within (frame : Frame) (p : Eval α) : Eval α := fun env =>
  let (result, env) := p (env.push frame)
  (result, env.pop)

def access (name : String) : Eval Quantity := do
  ofResult ((← get).lookupVariable name)

def callee (name : String) : Eval Function := do
  ofResult ((← get).lookupFunction name)

abbrev Caller := UserFunction → List Quantity → Eval Quantity

end Eval

open Eval

/-- The value of a literal; an omitted one is one. -/
def literalValue (literal : String) : Except Error Float :=
  if literal = "" then .ok 1 else
    match Numeral.read literal with
    | some x => .ok x
    | none => .error (.evaluation (.invalidNumber literal))

def Operator.apply : Operator → Quantity → Quantity → Except UnitError Quantity
  | add, a, b => a.add b
  | subtract, a, b => a.sub b
  | multiply, a, b => .ok (a * b)
  | divide, a, b => .ok (a / b)
  | power, a, b => a.pow b

def Function.apply (caller : Caller) : Function → List Quantity → Eval Quantity
  | builtin f, arguments => ofResult (f.apply arguments)
  | user f, arguments => caller f arguments

namespace Phrase

mutual

def evaluateWith (caller : Caller) : Phrase → Eval Outcome
  | number literal => do
    return .value (.dimensionless (← ofResult (literalValue literal)))
  | binary operator left right => do
    let l ← left.evaluateWith caller >>= quantity
    let r ← right.evaluateWith caller >>= quantity
    return .value (← ofUnit (operator.apply l r))
  | negate operand => do
    return .value (-(← operand.evaluateWith caller >>= quantity))
  | absolute inside => do
    return .value (← inside.evaluateWith caller >>= quantity).abs
  | group inside => do
    return .value (← inside.evaluateWith caller >>= quantity)
  | unit factors => do
    return .value (.ofDimension (← ofUnit (Dimension.ofFactors factors)))
  | measured value dimension => do
    let v ← value.evaluateWith caller >>= quantity
    let d ← dimension.evaluateWith caller >>= quantity
    return .value (v * d)
  | access name => do
    return .value (← Eval.access name)
  | call name arguments => do
    let f ← callee name
    let values ← quantitiesWith caller arguments
    return .value (← f.apply caller values)
  | define name body => do
    let q ← body.evaluateWith caller >>= quantity
    modify (·.define name q)
    return .signal .nothing
  | defineFunction name parameters body => do
    modify (·.defineFunction ⟨name, parameters, body⟩)
    return .signal .nothing
  | evaluate statement => statement.evaluateWith caller
  | exclude statement => statement.evaluateWith caller
  | render path => return .signal (.render path)
  | newline => return .signal .nothing
  | exit => return .signal .exit
  | quit => return .signal .exit

def quantitiesWith (caller : Caller) : List Phrase → Eval (List Quantity)
  | [] => return []
  | p :: ps => do
    let q ← p.evaluateWith caller >>= quantity
    return q :: (← quantitiesWith caller ps)

end

/-- Binds the parameters to the arguments in a frame of its own, and evaluates the body there. -/
def enter (run : Phrase → Eval Outcome) (f : UserFunction) (arguments : List Quantity) :
    Eval Quantity :=
  if f.parameters.length = arguments.length then
    within (Bindings.ofEntries (f.parameters.zip arguments)) (run f.body >>= quantity)
  else throw (.wrongArity f.name f.arity arguments.length)

/-- Calls of users' functions nest at most as deep as the first argument says. -/
def run : Nat → Phrase → Eval Outcome
  | 0 => evaluateWith fun _ _ => throw .callsTooDeep
  | n + 1 => evaluateWith (enter (run n))

def callLimit : Nat := 10000

end Phrase

end QuantityCalculator
