import QuantityCalculator.Typesetting

/-!
The ledger of a session, and the document that it is typeset as.
-/

namespace QuantityCalculator

structure Entry where
  phrase : Phrase
  outcome : Outcome

namespace Entry

/-- The line of an entry in the document; a value stands behind what was evaluated. An entry without
a row, or with an empty one, leaves no line. -/
def line (e : Entry) : Except Error String := do
  match ← e.phrase.row with
  | .math text =>
    if text = "" then return "" else
      match e.outcome.quantity? with
      | some q => return equation text q.latex ++ "\\\\\n"
      | none => return text ++ "\\\\\n"
  | _ => return ""

end Entry

structure Ledger where
  entries : List Entry := []

namespace Ledger

def push (l : Ledger) (e : Entry) : Ledger :=
  ⟨l.entries ++ [e]⟩

def header : String :=
  "\\begin\x7balign\x7d\n"

def footer : String :=
  "\\end\x7balign\x7d"

def document (l : Ledger) : Except Error String := do
  let lines ← l.entries.mapM Entry.line
  return header ++ String.join lines ++ footer

end Ledger

end QuantityCalculator
