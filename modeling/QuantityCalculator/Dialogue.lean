import QuantityCalculator.Session

/-!
A dialogue: the lines of an input run one after the other in a session, with what is written for
each.
-/

namespace QuantityCalculator

structure Transcript where
  out : String := ""
  err : String := ""
  failures : Nat := 0
  deriving DecidableEq

instance : Append Transcript where
  append a b := ⟨a.out ++ b.out, a.err ++ b.err, a.failures + b.failures⟩

namespace Dialogue

inductive Ending where
  | finished
  | notText
  deriving DecidableEq

def Ending.message? : Ending → Option String
  | finished => none
  | notText => some "stream did not contain valid UTF-8"

/-- A line of an input, if it is text. -/
abbrev Line := Option String

def prompt (interactive : Bool) : Transcript :=
  { out := if interactive then ">>> " else "" }

def report (interactive : Bool) : Except Error Outcome → Transcript
  | .ok (.value q) => { out := q.display ++ "\n" }
  | .ok (.signal (.render path)) => { out := if interactive then "wrote " ++ path ++ "\n" else "" }
  | .ok (.signal _) => {}
  | .error e => { err := "Error: " ++ e.message ++ "\n", failures := 1 }

def isIdle (line : String) : Bool :=
  line = "" || line.toList.head? = some '#'

variable {m : Type → Type} [Monad m] [Storage m]

/-- Runs one line. The answer says whether the dialogue goes on. -/
def respond (interactive : Bool) (s : Session) (line : String) :
    m (Bool × Transcript × Session) := do
  let text := String.ofList (Text.trim line.toList)
  if isIdle text then return (true, {}, s)
  let (result, s) ← s.runLine text
  let goesOn := match result with
    | .ok (.signal .exit) => false
    | _ => true
  return (goesOn, report interactive result, s)

/-- Runs lines until one ends the session, or is not text, or none is left. Where a prompt is given,
it is given before each reading, also before that which finds the end. -/
def run (interactive : Bool) (s : Session) : List Line → m (Ending × Transcript × Session)
  | [] => return (.finished, prompt interactive, s)
  | none :: _ => return (.notText, prompt interactive, s)
  | some line :: lines => do
    let (goesOn, written, s) ← respond interactive s line
    let written := prompt interactive ++ written
    if goesOn then
      let (ending, later, s) ← run interactive s lines
      return (ending, written ++ later, s)
    else return (.finished, written, s)

/-- Pieces that end at a separator, or at the end if something stands there. -/
def splitLines [DecidableEq α] (separator : α) (s : List α) : List (List α) :=
  match s.splitOn separator with
  | [] => []
  | pieces => if pieces.getLast? = some [] then pieces.dropLast else pieces

def linesOfText (s : String) : List Line :=
  (splitLines '\n' s.toList).map fun line => some (String.ofList line)

def decodeLine (bytes : ByteArray) : Line :=
  String.fromUTF8? bytes

def linesOfBytes (bytes : List UInt8) : List Line :=
  (splitLines 10 bytes).map fun line => decodeLine ⟨line.toArray⟩

end Dialogue

end QuantityCalculator
