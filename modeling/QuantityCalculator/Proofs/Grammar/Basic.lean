import Mathlib.Tactic.Lemma
import QuantityCalculator.Line.Parser

/-!
The grammar of a line over its tokens. A derivation tells the phrase that is read and the greatest
number of charges that are held at once.
-/

namespace QuantityCalculator.Grammar

open Parse

/-- What some tokens are read as. A chain is read with what stands to the left of it, arguments with
those before them. -/
inductive Rule where
  | expression
  | sumAfter (left : Phrase)
  | term
  | productAfter (left : Phrase)
  | unary
  | power
  | operand
  | argumentsAfter (name : String) (before : List Phrase)

def Resolves (text : String) (factors : List Factor) : Prop :=
  text ≠ "" ∧ Factor.split text = .ok factors ∧ ∃ d, Dimension.ofFactors factors = .ok d

/-- The last index is the greatest number of charges at once: one for an expression, one for each
operator of a chain from where it stands through the end of the chain, one for a minus sign and one
for an exponent. -/
inductive Derives : Rule → List Token → Phrase → Nat → Prop
  | expression {ts us l p j k} : Derives .term ts l j → Derives (.sumAfter l) us p k →
      Derives .expression (ts ++ us) p (max j k + 1)
  | sumEnd {p} : Derives (.sumAfter p) [] p 0
  | sumNext {t o ts us l r p j k} : additive? t.kind = some o → Derives .term ts r j →
      Derives (.sumAfter (.binary o l r)) us p k →
      Derives (.sumAfter l) (t :: (ts ++ us)) p (max j k + 1)
  | term {ts us l p j k} : Derives .unary ts l j → Derives (.productAfter l) us p k →
      Derives .term (ts ++ us) p (max j k)
  | productEnd {p} : Derives (.productAfter p) [] p 0
  | productNext {t o ts us l r p j k} : multiplicative? t.kind = some o → Derives .unary ts r j →
      Derives (.productAfter (.binary o l r)) us p k →
      Derives (.productAfter l) (t :: (ts ++ us)) p (max j k + 1)
  | minus {t ts p k} : t.kind = .minus → Derives .unary ts p k →
      Derives .unary (t :: ts) (.negate p) (k + 1)
  | unary {ts p k} : Derives .power ts p k → Derives .unary ts p k
  | raised {t ts us b e j k} : t.kind = .caret → Derives .operand ts b j → Derives .unary us e k →
      Derives .power (ts ++ t :: us) (.binary .power b e) (max j (k + 1))
  | power {ts p k} : Derives .operand ts p k → Derives .power ts p k
  | number {t} : t.kind = .number → Derives .operand [t] (.number t.text) 0
  | measured {t u fs} : t.kind = .number → isUnit u.kind → Resolves u.text fs →
      Derives .operand [t, u] (.measured (.number t.text) (.unit fs)) 0
  | quoted {u fs} : u.kind = .quotedUnit → Resolves u.text fs →
      Derives .operand [u] (.measured (.number "") (.unit fs)) 0
  | access {t} : t.kind = .name → Derives .operand [t] (.access t.text) 0
  | callEmpty {t o c} : t.kind = .name → o.kind = .openParen → c.kind = .closeParen →
      Derives .operand [t, o, c] (.call t.text []) 0
  | call {t o ts p k} : t.kind = .name → o.kind = .openParen →
      Derives (.argumentsAfter t.text []) ts p k → Derives .operand (t :: o :: ts) p k
  | lastArgument {c f as a ts k} : c.kind = .closeParen → Derives .expression ts a k →
      Derives (.argumentsAfter f as) (ts ++ [c]) (.call f (as ++ [a])) k
  | nextArgument {c f as a p ts us j k} : c.kind = .comma → Derives .expression ts a j →
      Derives (.argumentsAfter f (as ++ [a])) us p k →
      Derives (.argumentsAfter f as) (ts ++ c :: us) p (max j k)
  | group {o c ts p k} : o.kind = .openParen → c.kind = .closeParen → Derives .expression ts p k →
      Derives .operand (o :: (ts ++ [c])) (.group p) k
  | absolute {o c ts p k} : o.kind = .bar → c.kind = .bar → Derives .expression ts p k →
      Derives .operand (o :: (ts ++ [c])) (.absolute p) k

/-- Names with commas between them, and the parenthesis after them. -/
inductive Parameters : List Token → List String → Prop
  | last {t c} : t.kind = .name → c.kind = .closeParen → Parameters [t, c] [t.text]
  | more {t c ts xs} : t.kind = .name → c.kind = .comma → Parameters ts xs →
      Parameters (t :: c :: ts) (t.text :: xs)

/-- The head of a function definition, through the equals sign. -/
inductive Head : List Token → String → List String → Prop
  | plain {t o c e} : t.kind = .name → o.kind = .openParen → c.kind = .closeParen →
      e.kind = .equal → Head [t, o, c, e] t.text []
  | parameters {t o e ts xs} : t.kind = .name → o.kind = .openParen → Parameters ts xs →
      e.kind = .equal → Head (t :: o :: (ts ++ [e])) t.text xs

inductive Statement : List Token → Phrase → Nat → Prop
  | expression {ts p k} : Derives .expression ts p k → Statement ts p k
  | define {t e ts p k} : t.kind = .name → e.kind = .equal → Derives .expression ts p k →
      Statement (t :: e :: ts) (.define t.text p) k
  | defineFunction {ts us f xs p k} : Head ts f xs → Derives .expression us p k →
      Statement (ts ++ us) (.defineFunction f xs p) k

def Keyword (c t : Token) (word : String) : Prop :=
  c.kind = .colon ∧ t.kind = .name ∧ t.text = word

/-- A line, without the end of the input. A path is no matter of tokens. -/
inductive Line : List Token → Phrase → Nat → Prop
  | statement {ts p k} : Statement ts p k → Line ts (.evaluate p) k
  | evaluate {c t ts p k} : Keyword c t "evaluate" → Statement ts p k →
      Line (c :: t :: ts) (.evaluate p) k
  | exclude {c t ts p k} : Keyword c t "exclude" → Statement ts p k →
      Line (c :: t :: ts) (.exclude p) k
  | newline {c t} : Keyword c t "newline" → Line [c, t] .newline 0
  | exit {c t} : Keyword c t "exit" → Line [c, t] .exit 0
  | quit {c t} : Keyword c t "quit" → Line [c, t] .quit 0

end QuantityCalculator.Grammar
