import QuantityCalculator.Line.Lexeme
import QuantityCalculator.Text.Blank

/-!
The cursor that goes over a text token by token, and all tokens of a text.
-/

namespace QuantityCalculator

open Text

/-- Separates leading blanks and comments; a comment goes from `#` through the end of its line. -/
def splitBlanks (inComment : Bool) (s : List Char) : List Char × List Char :=
  match s with
  | [] => ([], [])
  | c :: r =>
    if inComment then
      let (skipped, rest) := splitBlanks (c ≠ '\n') r
      (c :: skipped, rest)
    else if isBlank c || c = '#' then
      let (skipped, rest) := splitBlanks (c = '#') r
      (c :: skipped, rest)
    else ([], c :: r)

theorem splitBlanks_append (inComment : Bool) (s : List Char) :
    (splitBlanks inComment s).1 ++ (splitBlanks inComment s).2 = s := by
  induction s generalizing inComment with
  | nil => rfl
  | cons c r ih =>
    rw [splitBlanks]
    split
    · simp [ih]
    · split
      · simp [ih]
      · rfl

theorem length_splitBlanks_le (inComment : Bool) (s : List Char) :
    (splitBlanks inComment s).2.length ≤ s.length := by
  have h := congrArg List.length (splitBlanks_append inComment s)
  simp only [List.length_append] at h
  omega

/-- What is left of a text, where that begins, and whether it follows a number. -/
structure Cursor where
  rest : List Char
  place : Place := {}
  afterNumber : Bool := false
  deriving DecidableEq

namespace Cursor

def ofText (s : String) : Cursor :=
  { rest := s.toList }

def lexeme (c : Cursor) : Lexeme :=
  Lexeme.ofChars c.afterNumber (splitBlanks false c.rest).2

def tokenPlace (c : Cursor) : Place :=
  c.place.advance (splitBlanks false c.rest).1

def token (c : Cursor) : Token :=
  ⟨c.lexeme.kind, c.lexeme.text, c.tokenPlace⟩

def advance (c : Cursor) : Cursor where
  rest := c.lexeme.rest
  place := c.tokenPlace.advance c.lexeme.taken
  afterNumber := c.lexeme.kind = .number

theorem length_advance_lt {c : Cursor} (h : (splitBlanks false c.rest).2 ≠ []) :
    c.advance.rest.length < c.rest.length :=
  Nat.lt_of_lt_of_le (Lexeme.length_rest_lt c.afterNumber h) (length_splitBlanks_le false c.rest)

def tokens (c : Cursor) : List Token :=
  if (splitBlanks false c.rest).2 = [] then [c.token] else c.token :: c.advance.tokens
termination_by c.rest.length
decreasing_by exact length_advance_lt (by assumption)

end Cursor

def remainder (s : List Char) (position : Nat) : String :=
  String.ofList (trim (s.drop position))

end QuantityCalculator
