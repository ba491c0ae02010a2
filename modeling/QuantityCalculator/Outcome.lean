import QuantityCalculator.Quantity
import QuantityCalculator.Text.Quoted

/-!
What a phrase comes to: a quantity, or a signal to the session.
-/

namespace QuantityCalculator

inductive Signal where
  | render (path : String)
  | exit
  | nothing
  deriving DecidableEq

def Signal.title : Signal → String
  | render path => s!"Render({Text.quoted path})"
  | exit => "Exit"
  | nothing => "Nothing"

inductive Outcome where
  | value (quantity : Quantity)
  | signal (signal : Signal)
  deriving DecidableEq

def Outcome.quantity? : Outcome → Option Quantity
  | value q => some q
  | signal _ => none

end QuantityCalculator
