import QuantityCalculator.Line.Token
import QuantityCalculator.Outcome

/-!
Why a line fails, and the message for it.
-/

namespace QuantityCalculator

inductive Expectation where
  | token (kind : Token.Kind)
  | expression
  | endOfInput
  deriving DecidableEq

def Expectation.title : Expectation → String
  | token kind => kind.title
  | expression => "expression"
  | endOfInput => "end of input"

inductive ParseError where
  | unexpected (expected : Expectation) (found : Token)
  | tooDeep (limit : Nat)
  | emptyUnit (place : Place)
  | unknownCommand (keyword : Token)
  | missingPath
  deriving DecidableEq

def Place.text (p : Place) : String :=
  s!"at line {p.line}, column {p.column}"

namespace ParseError

def unexpectedText (expected : Expectation) (found : Token) : String :=
  match found.kind with
  | .error => s!"{found.text} {found.place.text}"
  | .endOfInput => s!"Expected {expected.title}, but reached end of input"
  | kind => s!"Expected {expected.title}, got {kind.title} '{found.text}' {found.place.text}"

def message : ParseError → String
  | unexpected expected found => unexpectedText expected found
  | tooDeep limit => s!"Expression too deeply nested (max depth: {limit})"
  | emptyUnit place => s!"Empty unit {place.text}"
  | unknownCommand keyword => s!"Unknown command ':{keyword.text}' {keyword.place.text}"
  | missingPath => "render requires an output path"

end ParseError

inductive EvaluationError where
  | invalidNumber (literal : String)
  | notAValue (found : Signal)
  | commandInMath
  deriving DecidableEq

def EvaluationError.message : EvaluationError → String
  | invalidNumber literal => s!"invalid number '{literal}'"
  | notAValue found => s!"expected a value, got {found.title}"
  | commandInMath => "commands cannot be typeset inside an expression"

inductive StorageError where
  | noSuchFile
  | notADirectory
  | isADirectory
  | nameTooLong
  | nulInName
  | other (message : String)
  deriving DecidableEq

def StorageError.message : StorageError → String
  | noSuchFile => "No such file or directory (os error 2)"
  | notADirectory => "Not a directory (os error 20)"
  | isADirectory => "Is a directory (os error 21)"
  | nameTooLong => "File name too long (os error 36)"
  | nulInName => "file name contained an unexpected NUL byte"
  | other message => message

structure Arity where
  least : Nat
  most : Nat
  deriving DecidableEq

def Arity.text (a : Arity) : String :=
  if a.least = a.most then s!"{a.least}" else s!"{a.least} to {a.most}"

inductive Error where
  | unit (error : UnitError)
  | parse (error : ParseError)
  | undefinedName (name : String)
  | argumentHasUnit (function : String) (dimension : Dimension)
  | wrongArity (function : String) (expected : Arity) (found : Nat)
  | evaluation (error : EvaluationError)
  | callsTooDeep
  | storage (error : StorageError)
  deriving DecidableEq

namespace Error

def message : Error → String
  | unit error => error.message
  | parse error => s!"Parse error: {error.message}"
  | undefinedName name => s!"Undefined name: {name}"
  | argumentHasUnit function dimension =>
    s!"{function}() requires a dimensionless argument, got '{dimension.display}'"
  | wrongArity function expected found =>
    s!"{function}() takes {expected.text} argument(s), got {found}"
  | evaluation error => s!"Evaluation error: {error.message}"
  | callsTooDeep => "Evaluation error: function calls nested too deeply"
  | storage error => s!"I/O error: {error.message}"

end Error

end QuantityCalculator
