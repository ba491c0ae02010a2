import QuantityCalculator.Dimension.Display

/-!
Phrases: what a line says, as a tree. A line that was read holds definitions and commands only at
its root, but any phrase can be evaluated and typeset.
-/

namespace QuantityCalculator

inductive Operator where
  | add
  | subtract
  | multiply
  | divide
  | power
  deriving DecidableEq

inductive Phrase where
  /-- The empty literal stands for the one that is not written before a unit. -/
  | number (literal : String)
  | binary (operator : Operator) (left right : Phrase)
  | negate (operand : Phrase)
  | absolute (inside : Phrase)
  | group (inside : Phrase)
  | unit (factors : List Factor)
  | measured (value unit : Phrase)
  | access (name : String)
  | call (name : String) (arguments : List Phrase)
  | define (name : String) (body : Phrase)
  | defineFunction (name : String) (parameters : List String) (body : Phrase)
  | evaluate (statement : Phrase)
  | exclude (statement : Phrase)
  | render (path : String)
  | newline
  | exit
  | quit

end QuantityCalculator
