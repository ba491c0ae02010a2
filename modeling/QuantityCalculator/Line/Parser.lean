import QuantityCalculator.Error
import QuantityCalculator.Line.Cursor
import QuantityCalculator.Line.Phrase

/-!
Reading a line as a phrase, by recursive descent over its tokens. The depth counts charges: one for
each expression that is being read, each operator of an unfinished chain, each minus sign before its
operand and each exponent. More charges at once than the limit are refused.
-/

namespace QuantityCalculator

/-- The text of a line, the tokens that are not read yet, and the charges that are held. A failure
leaves it where it occurred. -/
structure Parser where
  source : List Char
  tokens : List Token
  depth : Nat := 0
  deriving DecidableEq

namespace Parser

def ofText (s : String) : Parser where
  source := s.toList
  tokens := (Cursor.ofText s).tokens

/-- The next token; past the last one stands the end of the input. -/
def current (p : Parser) : Token :=
  p.tokens.headD ⟨.endOfInput, "", {}⟩

def followingKind (p : Parser) : Token.Kind :=
  ({ p with tokens := p.tokens.tail }).current.kind

end Parser

abbrev Parse := ExceptT Error (StateM Parser)

namespace Parse

def limit : Nat := 200

def refuse (e : ParseError) : Parse α :=
  throw (.parse e)

def current : Parse Token :=
  return (← get).current

def currentKind : Parse Token.Kind :=
  return (← get).current.kind

def advance : Parse Unit :=
  modify fun p => { p with tokens := p.tokens.tail }

def unexpected (expected : Expectation) : Parse α := do
  refuse (.unexpected expected (← current))

def expect (kind : Token.Kind) : Parse Token := do
  let token ← current
  if token.kind = kind then
    advance
    return token
  else unexpected (.token kind)

def expectEnd : Parse Unit := do
  if (← currentKind) ≠ .endOfInput then unexpected .endOfInput

def charge : Parse Unit := do
  modify fun p => { p with depth := p.depth + 1 }
  if limit < (← get).depth then refuse (.tooDeep limit)

def release : Parse Unit :=
  modify fun p => { p with depth := p.depth - 1 }

/-- Reads under one more charge, which a failure keeps. -/
def charged (p : Parse α) : Parse α := do
  charge
  let a ← p
  release
  return a

/-- Reads if it can, and is back where it began if it cannot. -/
def attempt (p : Parse α) : Parse (Option α) := fun s =>
  match p s with
  | (.ok a, s') => (.ok (some a), s')
  | (.error _, _) => (.ok none, s)

/-- Items with commas between them; each but the last takes a comma, so that there are no more items
than tokens. -/
def separated (item : Parse α) : Nat → Parse (List α)
  | 0 => return []
  | n + 1 => do
    let first ← item
    if (← currentKind) = .comma then
      advance
      return first :: (← separated item n)
    else return [first]

def listOf (item : Parse α) : Parse (List α) := do
  let _ ← expect .openParen
  if (← currentKind) = .closeParen then
    advance
    return []
  else
    let items ← separated item (← get).tokens.length
    let _ ← expect .closeParen
    return items

def ofUnit : Except UnitError α → Parse α
  | .ok a => return a
  | .error e => throw (.unit e)

def unit : Parse Phrase := do
  let token ← current
  if token.text = "" then refuse (.emptyUnit token.place)
  let factors ← ofUnit (Factor.split token.text)
  let _ ← ofUnit (Dimension.ofFactors factors)
  advance
  return .unit factors

def isUnit (kind : Token.Kind) : Bool :=
  kind = .unit || kind = .quotedUnit

def number : Parse Phrase := do
  let literal := Phrase.number (← current).text
  advance
  if isUnit (← currentKind) then return .measured literal (← unit) else return literal

def additive? : Token.Kind → Option Operator
  | .plus => some .add
  | .minus => some .subtract
  | _ => none

def multiplicative? : Token.Kind → Option Operator
  | .asterisk => some .multiply
  | .slash => some .divide
  | _ => none

def tooDeep : Parse α :=
  refuse (.tooDeep limit)

mutual

/-- A sum. The first argument bounds the nesting of these rules; at most five of them lie between a
charge and the next, so that it is used up only where the charges are. -/
def expression : Nat → Parse Phrase
  | 0 => tooDeep
  | n + 1 => charged do sumAfter n (← term n)

/-- The rest of a sum; the charge for an operator is held until the sum ends. -/
def sumAfter : Nat → Phrase → Parse Phrase
  | 0, _ => tooDeep
  | n + 1, left => do
    match additive? (← currentKind) with
    | none => return left
    | some operator => charged do
      advance
      let right ← term n
      sumAfter n (.binary operator left right)

def term : Nat → Parse Phrase
  | 0 => tooDeep
  | n + 1 => do productAfter n (← unary n)

def productAfter : Nat → Phrase → Parse Phrase
  | 0, _ => tooDeep
  | n + 1, left => do
    match multiplicative? (← currentKind) with
    | none => return left
    | some operator => charged do
      advance
      let right ← unary n
      productAfter n (.binary operator left right)

def unary : Nat → Parse Phrase
  | 0 => tooDeep
  | n + 1 => do
    if (← currentKind) = .minus then
      charged do
        advance
        return .negate (← unary n)
    else power n

/-- A power; the exponent reaches as far as it can, so that powers nest to the right. -/
def power : Nat → Parse Phrase
  | 0 => tooDeep
  | n + 1 => do
    let base ← operand n
    if (← currentKind) = .caret then
      charged do
        advance
        return .binary .power base (← unary n)
    else return base

def operand : Nat → Parse Phrase
  | 0 => tooDeep
  | n + 1 => do
    match ← currentKind with
    | .number => number
    | .quotedUnit => return .measured (.number "") (← unit)
    | .name =>
      let name := (← current).text
      advance
      if (← currentKind) = .openParen then return .call name (← listOf (expression n))
      else return .access name
    | .openParen =>
      advance
      let inside ← expression n
      let _ ← expect .closeParen
      return .group inside
    | .bar =>
      advance
      let inside ← expression n
      let _ ← expect .bar
      return .absolute inside
    | _ => unexpected .expression

end

def wholeExpression : Parse Phrase :=
  expression (5 * (limit + 1))

def definition : Parse Phrase := do
  let name ← expect .name
  let _ ← expect .equal
  return .define name.text (← wholeExpression)

def functionHead : Parse (String × List String) := do
  let name ← expect .name
  let parameters ← listOf (expect .name)
  let _ ← expect .equal
  return (name.text, parameters.map Token.text)

/-- A call that no equals sign follows is an expression. -/
def functionOrExpression : Parse Phrase := do
  match ← attempt functionHead with
  | some (name, parameters) => return .defineFunction name parameters (← wholeExpression)
  | none => wholeExpression

def statement : Parse Phrase := do
  let p ← get
  if p.current.kind = .name ∧ p.followingKind = .equal then definition
  else if p.current.kind = .name ∧ p.followingKind = .openParen then functionOrExpression
  else wholeExpression

/-- All that is left of the line is the path, whatever its tokens would be. -/
def renderPath : Parse Phrase := do
  let p ← get
  let path := remainder p.source p.current.place.position
  if path = "" then refuse .missingPath
  set { p with tokens := [] }
  return .render path

def command : Parse Phrase := do
  let _ ← expect .colon
  let keyword ← expect .name
  match keyword.text with
  | "exit" => return .exit
  | "quit" => return .quit
  | "newline" => return .newline
  | "evaluate" => return .evaluate (← statement)
  | "exclude" => return .exclude (← statement)
  | "render" => renderPath
  | _ => refuse (.unknownCommand keyword)

def line : Parse Phrase := do
  let phrase ← if (← currentKind) = .colon then command else Phrase.evaluate <$> statement
  expectEnd
  return phrase

def onlyExpression : Parse Phrase := do
  let phrase ← wholeExpression
  expectEnd
  return phrase

end Parse

namespace Phrase

def parse (s : String) : Except Error Phrase :=
  (Parse.line (.ofText s)).1

def parseExpression (s : String) : Except Error Phrase :=
  (Parse.onlyExpression (.ofText s)).1

end Phrase

end QuantityCalculator
