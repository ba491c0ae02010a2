import QuantityCalculator.Error
import QuantityCalculator.Line.Phrase

/-!
Typesetting a phrase as mathematics.
-/

namespace QuantityCalculator

inductive Row where
  | math (text : String)
  | empty
  | exit
  deriving DecidableEq

namespace Row

/-- The text inside a larger formula; a phrase that leaves no row leaves nothing there. -/
def inside : Row → Except Error String
  | math text => .ok text
  | empty => .ok ""
  | exit => .error (.evaluation .commandInMath)

def math? : Row → Option String
  | math text => some text
  | _ => none

end Row

def braced (s : String) : String :=
  "\x7b" ++ s ++ "\x7d"

def equation (left right : String) : String :=
  left ++ " &=& " ++ right

def Operator.formula : Operator → String → String → String
  | add, l, r => l ++ " + " ++ r
  | subtract, l, r => l ++ " - " ++ r
  | multiply, l, r => l ++ " \\cdot " ++ r
  | divide, l, r => "\\frac" ++ braced l ++ braced r
  | power, l, r => braced l ++ "^" ++ braced r

namespace Phrase

def application (name : String) (arguments : List String) : String :=
  name ++ "(" ++ ", ".intercalate arguments ++ ")"

mutual

def row : Phrase → Except Error Row
  | number literal => return .math (if literal = "" then "1" else literal)
  | binary operator left right => do
    let l ← left.row >>= Row.inside
    let r ← right.row >>= Row.inside
    return .math (operator.formula l r)
  | negate operand => do return .math ("-" ++ (← operand.row >>= Row.inside))
  | absolute e => do return .math ("|" ++ (← e.row >>= Row.inside) ++ "|")
  | group e => do return .math ("(" ++ (← e.row >>= Row.inside) ++ ")")
  | unit factors =>
    match Dimension.ofFactors factors with
    | .ok d => return .math d.latex
    | .error e => .error (.unit e)
  | measured value dimension => do
    let v ← value.row >>= Row.inside
    let d ← dimension.row >>= Row.inside
    return .math (if d = "" then v else v ++ " " ++ d)
  | access name => return .math name
  | call name arguments => do return .math (application name (← rows arguments))
  | define name body => do return .math (equation name (← body.row >>= Row.inside))
  | defineFunction name parameters body => do
    return .math (equation (application name parameters) (← body.row >>= Row.inside))
  | evaluate statement => statement.row
  | exclude _ => return .empty
  | render _ => return .empty
  | newline => return .math "\\\\"
  | exit => return .exit
  | quit => return .exit

def rows : List Phrase → Except Error (List String)
  | [] => return []
  | p :: ps => do
    let first ← p.row >>= Row.inside
    return first :: (← rows ps)

end

end Phrase

end QuantityCalculator
