import QuantityCalculator.Dimension.Compound
import QuantityCalculator.Line.Token
import QuantityCalculator.Text.Munch
import QuantityCalculator.Text.Word

/-!
Lexemes: the longest leading piece of a text that is one token. Main statement: the piece and the
rest are the text, and only the end of the text has an empty piece.
-/

namespace QuantityCalculator

open Text

structure Lexeme where
  kind : Token.Kind
  text : String
  taken : List Char
  rest : List Char
  deriving DecidableEq

namespace Lexeme

def digits : Munch :=
  .run Char.isDigit

/-- A point belongs to a number only before a digit. -/
def fraction : Munch :=
  (Munch.one (· = '.')).followedBy digits

def sign : Munch :=
  .one fun c => c = '+' || c = '-'

/-- An `e` belongs to a number only before an optionally signed digit. -/
def power : Munch :=
  ((Munch.one fun c => c = 'e' || c = 'E').followedBy (.optional sign)).followedBy digits

def number : Munch :=
  (digits.followedBy (.optional fraction)).followedBy (.optional power)

/-- Letters with an optional exponent, as in `m` or `kg-1.5`. -/
def unitSegment : Munch :=
  (Munch.run isLetter).followedBy
    (.optional (((Munch.optional sign).followedBy digits).followedBy (.optional fraction)))

theorem splits_digits : Munch.Splits digits :=
  Munch.splits_run _

theorem splits_fraction : Munch.Splits fraction :=
  (Munch.splits_one _).followedBy splits_digits

theorem splits_power : Munch.Splits power :=
  ((Munch.splits_one _).followedBy (Munch.splits_one _).optional).followedBy splits_digits

theorem splits_number : Munch.Splits number :=
  (splits_digits.followedBy splits_fraction.optional).followedBy splits_power.optional

theorem number_ne_nil {s w r : List Char} (h : number s = some (w, r)) : w ≠ [] :=
  Munch.followedBy_ne_nil (Munch.followedBy_ne_nil Munch.run_ne_nil) h

theorem splits_unitSegment : Munch.Splits unitSegment :=
  (Munch.splits_run _).followedBy
    (((Munch.splits_one _).optional.followedBy splits_digits).followedBy
      splits_fraction.optional).optional

theorem unitSegment_ne_nil {s w r : List Char} (h : unitSegment s = some (w, r)) : w ≠ [] :=
  Munch.followedBy_ne_nil Munch.run_ne_nil h

def unitWord (s : List Char) : Option (List Char × List Char) :=
  match _h : unitSegment s with
  | none => none
  | some (w, r) =>
    match unitWord r with
    | none => some (w, r)
    | some (v, t) => some (w ++ v, t)
termination_by s.length
decreasing_by exact splits_unitSegment.length_lt _h (unitSegment_ne_nil _h)

theorem unitWord_of_none {s : List Char} (h : unitSegment s = none) : unitWord s = none := by
  rw [unitWord]
  split
  · rfl
  · simp_all

theorem unitWord_of_some {s w r : List Char} (h : unitSegment s = some (w, r)) :
    unitWord s = match unitWord r with
      | none => some (w, r)
      | some (v, t) => some (w ++ v, t) := by
  rw [unitWord]
  split
  · simp_all
  · next u t hu =>
    obtain ⟨rfl, rfl⟩ : u = w ∧ t = r := by simpa [hu] using h
    rfl

theorem splits_unitWord : Munch.Splits unitWord := by
  intro s
  fun_induction unitWord s with
  | case1 => simp
  | case2 s w r h _ _ =>
    rintro _ _ ⟨⟩
    exact splits_unitSegment _ _ _ h
  | case3 s w r h v t ht ih =>
    rintro _ _ ⟨⟩
    rw [List.append_assoc, ih _ _ ht, splits_unitSegment _ _ _ h]

theorem unitWord_ne_nil {s w r : List Char} (h : unitWord s = some (w, r)) : w ≠ [] := by
  rcases hs : unitSegment s with _ | ⟨u, q⟩
  · rw [unitWord_of_none hs] at h
    contradiction
  · have hu := unitSegment_ne_nil hs
    rw [unitWord_of_some hs] at h
    split at h <;> cases h
    · exact hu
    · exact List.append_ne_nil_of_left_ne_nil hu _

/-- Whether a unit may end before a text: it would not be a longer name or a call. -/
def isBoundary : List Char → Bool
  | [] => true
  | c :: _ => !(isWord c || c = '(')

/-- A word after a number, if it is a compound of known units. -/
def unit : Munch := fun s =>
  match unitWord s with
  | none => none
  | some (w, r) =>
    if isBoundary r && (Dimension.parse (String.ofList w)).toOption.isSome then some (w, r)
    else none

theorem unit_eq_some {s w r : List Char} (h : unit s = some (w, r)) :
    unitWord s = some (w, r) ∧ isBoundary r ∧
      (Dimension.parse (String.ofList w)).toOption.isSome := by
  rw [unit] at h
  split at h
  · contradiction
  · next hw =>
    split at h
    · next hb => simp_all
    · contradiction

def symbol? : Char → Option Token.Kind
  | '(' => some .openParen
  | ')' => some .closeParen
  | ',' => some .comma
  | ':' => some .colon
  | '+' => some .plus
  | '-' => some .minus
  | '/' => some .slash
  | '^' => some .caret
  | '|' => some .bar
  | '=' => some .equal
  | _ => none

def verbatim (kind : Token.Kind) (taken rest : List Char) : Lexeme :=
  ⟨kind, String.ofList taken, taken, rest⟩

def quote : Char := '\x27'

/-- A unit between quotes; `s` follows the opening one. -/
def quoted (s : List Char) : Lexeme :=
  let inside := s.takeWhile (· ≠ quote)
  match s.dropWhile (· ≠ quote) with
  | [] => ⟨.error, "Parse error: Unterminated unit string", quote :: inside, []⟩
  | _ :: r => ⟨.quotedUnit, String.ofList inside, quote :: inside ++ [quote], r⟩

/-- A word is read as a unit only right after a number. -/
def unitOrNone (afterNumber : Bool) : Munch := fun s =>
  if afterNumber then unit s else none

def star : List Char → Lexeme
  | '*' :: r => verbatim .caret ['*', '*'] r
  | r => verbatim .asterisk ['*'] r

/-- A token that begins with `c` and is neither a number nor a unit after one. -/
def ofCons (c : Char) (r : List Char) : Lexeme :=
  match symbol? c with
  | some kind => verbatim kind [c] r
  | none =>
    if c = '*' then star r
    else if c = quote then quoted r
    else if isWordStart c then
      verbatim .name ((c :: r).takeWhile isWord) ((c :: r).dropWhile isWord)
    else ⟨.error, s!"Unexpected character '{c}'", [c], r⟩

def ofChars (afterNumber : Bool) (s : List Char) : Lexeme :=
  match s with
  | [] => ⟨.endOfInput, "", [], []⟩
  | c :: r =>
    match unitOrNone afterNumber (c :: r) with
    | some (w, t) => verbatim .unit w t
    | none =>
      match number (c :: r) with
      | some (w, t) => verbatim .number w t
      | none => ofCons c r

theorem splits_unitOrNone (afterNumber : Bool) : Munch.Splits (unitOrNone afterNumber) := by
  intro s w r h
  cases afterNumber
  · contradiction
  · exact splits_unitWord s w r (unit_eq_some h).1

theorem quoted_append (s : List Char) : (quoted s).taken ++ (quoted s).rest = quote :: s := by
  have h := List.takeWhile_append_dropWhile (p := (· ≠ quote)) (l := s)
  rw [quoted]
  rcases hd : s.dropWhile (· ≠ quote) with _ | ⟨c, r⟩
  · rw [hd, List.append_nil] at h
    simp only [h, List.append_nil]
  · have hc := List.head?_dropWhile_not (· ≠ quote) s
    rw [hd] at hc
    obtain rfl : c = quote := by simpa using hc
    rw [hd] at h
    simp only [List.append_assoc, List.cons_append, List.nil_append, h]

theorem star_append (s : List Char) : (star s).taken ++ (star s).rest = '*' :: s := by
  fun_cases star s <;> rfl

theorem ofCons_append (c : Char) (r : List Char) :
    (ofCons c r).taken ++ (ofCons c r).rest = c :: r := by
  rw [ofCons]
  split
  · rfl
  · split
    · next h => rw [h, star_append]
    · split
      · next h => rw [h, quoted_append]
      · split
        · exact List.takeWhile_append_dropWhile
        · rfl

theorem ofChars_append (afterNumber : Bool) (s : List Char) :
    (ofChars afterNumber s).taken ++ (ofChars afterNumber s).rest = s := by
  rcases s with _ | ⟨c, r⟩
  · rfl
  · simp only [ofChars]
    split
    · next h => exact splits_unitOrNone _ _ _ _ h
    · split
      · next h => exact splits_number _ _ _ h
      · exact ofCons_append c r

theorem isWord_of_isWordStart {c : Char} (h : isWordStart c) : isWord c := by
  rw [isWordStart] at h
  rw [isWord]
  grind

theorem ofCons_taken_ne_nil (c : Char) (r : List Char) : (ofCons c r).taken ≠ [] := by
  rw [ofCons]
  split
  · simp [verbatim]
  · split
    · fun_cases star r <;> simp [verbatim]
    · split
      · rw [quoted]
        split <;> simp
      · split
        · next h => simp [verbatim, isWord_of_isWordStart h]
        · simp

theorem taken_ne_nil (afterNumber : Bool) {s : List Char} (hs : s ≠ []) :
    (ofChars afterNumber s).taken ≠ [] := by
  rcases s with _ | ⟨c, r⟩
  · contradiction
  · simp only [ofChars]
    split
    · next h =>
      cases afterNumber
      · contradiction
      · exact unitWord_ne_nil (unit_eq_some h).1
    · split
      · next h => exact number_ne_nil h
      · exact ofCons_taken_ne_nil c r

theorem length_rest_lt (afterNumber : Bool) {s : List Char} (hs : s ≠ []) :
    (ofChars afterNumber s).rest.length < s.length := by
  have h := congrArg List.length (ofChars_append afterNumber s)
  have hn := List.length_pos_iff.mpr (taken_ne_nil afterNumber hs)
  simp only [List.length_append] at h
  omega

end Lexeme

end QuantityCalculator
