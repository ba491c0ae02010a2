/-!
Tokens of a line, each with the place of its first character.
-/

namespace QuantityCalculator

/-- Characters before a place, and its line and column counted from one. -/
structure Place where
  position : Nat := 0
  line : Nat := 1
  column : Nat := 1
  deriving DecidableEq

namespace Place

def step (p : Place) (c : Char) : Place :=
  if c = '\n' then ⟨p.position + 1, p.line + 1, 1⟩ else ⟨p.position + 1, p.line, p.column + 1⟩

def advance (p : Place) (s : List Char) : Place :=
  s.foldl step p

end Place

inductive Token.Kind where
  | number
  | unit
  | quotedUnit
  | name
  | plus
  | minus
  | asterisk
  | slash
  | caret
  | bar
  | equal
  | openParen
  | closeParen
  | comma
  | colon
  | endOfInput
  | error
  deriving DecidableEq

def Token.Kind.title : Token.Kind → String
  | number => "NumberLiteral"
  | unit => "Unit"
  | quotedUnit => "UnitString"
  | name => "Identifier"
  | plus => "Plus"
  | minus => "Minus"
  | asterisk => "Multiply"
  | slash => "Divide"
  | caret => "Caret"
  | bar => "Pipe"
  | equal => "Equal"
  | openParen => "OpenParen"
  | closeParen => "CloseParen"
  | comma => "Comma"
  | colon => "Colon"
  | endOfInput => "Eof"
  | error => "Error"

/-- The text of an error token says what is wrong; that of another is written in the line. -/
structure Token where
  kind : Token.Kind
  text : String
  place : Place
  deriving DecidableEq

end QuantityCalculator
