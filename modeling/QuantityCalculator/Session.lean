import QuantityCalculator.Evaluation.Evaluate
import QuantityCalculator.Ledger
import QuantityCalculator.Line.Parser
import QuantityCalculator.Storage

/-!
Sessions: an environment, and a ledger of the lines that came to something. A line that fails, or
that ends the session, is not recorded.
-/

namespace QuantityCalculator

structure Session where
  environment : Environment
  ledger : Ledger := {}

namespace Session

def start (constants : Bool) : Session where
  environment := if constants then .withConstants else .empty

def record (s : Session) (phrase : Phrase) (outcome : Outcome) : Session :=
  { s with ledger := s.ledger.push ⟨phrase, outcome⟩ }

variable {m : Type → Type} [Monad m] [Storage m]

def render (s : Session) (path : String) : m (Except Error Unit) :=
  match s.ledger.document with
  | .error e => return .error e
  | .ok text => return (← Storage.write path text).mapError .storage

/-- Evaluates a phrase. A document is stored before its own line is recorded. -/
def execute (s : Session) (phrase : Phrase) : m (Except Error Outcome × Session) := do
  let (result, environment) := phrase.run Phrase.callLimit s.environment
  let s := { s with environment }
  match result with
  | .ok (.signal .exit) => return (result, s)
  | .ok (.signal (.render path)) =>
    match ← s.render path with
    | .ok _ => return (result, s.record phrase (.signal (.render path)))
    | .error e => return (.error e, s)
  | .ok outcome => return (result, s.record phrase outcome)
  | .error e => return (.error e, s)

def runLine (s : Session) (line : String) : m (Except Error Outcome × Session) :=
  match Phrase.parse line with
  | .ok phrase => s.execute phrase
  | .error e => return (.error e, s)

end Session

end QuantityCalculator
