import QuantityCalculator.Proofs.Reading.Composes
import QuantityCalculator.Proofs.Scanning.Comment

/-!
What reading makes of the place where the input ends. Main statement: it makes nothing of it, so that a
text with a comment behind it is read, or refused, as it is without.
-/

namespace QuantityCalculator

open Grammar

/-- The same error, where the end of the input may have been met at another place. -/
inductive Error.Alike : Error → Error → Prop
  | refl e : Alike e e
  | ends {x t u} : t.kind = .endOfInput → u.kind = .endOfInput →
      Alike (.parse (.unexpected x t)) (.parse (.unexpected x u))

structure Parser.Alike (s s' : Parser) : Prop where
  tokens : List.Forall₂ Token.Alike s.tokens s'.tokens
  depth : s.depth = s'.depth

variable {s s' : Parser} {t u : Token} {e e' : Error} {x : Expectation}

lemma ParseError.unexpectedText_of_end (h : t.kind = .endOfInput) :
    unexpectedText x t = s!"Expected {x.title}, but reached end of input" := by
  rw [unexpectedText, h]

lemma Error.Alike.message_eq (h : e.Alike e') : e.message = e'.message := by
  obtain _ | @⟨x, t, u, ht, hu⟩ := h
  · rfl
  · have hm : ParseError.unexpectedText x t = ParseError.unexpectedText x u := by
      rw [ParseError.unexpectedText_of_end ht, ParseError.unexpectedText_of_end hu]
    exact congrArg (s!"Parse error: {·}") hm

namespace Token.Alike

lemma kind_eq (h : t.Alike u) : t.kind = u.kind := by
  obtain _ | ⟨ht, hu⟩ := h
  · rfl
  · exact ht.trans hu.symm

lemma eq_of_kind_ne (h : t.Alike u) (hn : t.kind ≠ .endOfInput) : t = u := by
  obtain _ | ⟨ht, -⟩ := h
  · rfl
  · exact absurd ht hn

lemma unexpected (h : t.Alike u) (x : Expectation) :
    Error.Alike (.parse (.unexpected x t)) (.parse (.unexpected x u)) := by
  obtain _ | ⟨ht, hu⟩ := h
  · exact .refl _
  · exact .ends ht hu

end Token.Alike

namespace Parser.Alike

lemma current (h : s.Alike s') : s.current.Alike s'.current := by
  obtain ⟨ts, n⟩ := h
  rw [Parser.current, Parser.current]
  generalize s.tokens = ts, s'.tokens = us at ts
  cases ts with
  | nil => exact .refl _
  | cons ht => exact ht

lemma next_eq (h : s.Alike s') : next s.tokens = next s'.tokens :=
  h.current.kind_eq

lemma tail (h : s.Alike s') : Parser.Alike { s with tokens := s.tokens.tail }
    { s' with tokens := s'.tokens.tail } := by
  obtain ⟨ts, n⟩ := h
  refine ⟨?_, n⟩
  dsimp only
  generalize s.tokens = ts, s'.tokens = us at ts
  cases ts with
  | nil => exact .nil
  | cons _ hs => exact hs

end Parser.Alike

namespace Parse

/-- The same result at parsers that are alike, or errors that are alike. -/
inductive Same {α : Type} : Except Error α × Parser → Except Error α × Parser → Prop
  | ok a {s s' : Parser} : s.Alike s' → Same (.ok a, s) (.ok a, s')
  | error {e e' : Error} {s s'} : e.Alike e' → Same (.error e, s) (.error e', s')

lemma Same.answer {α : Type} {r r' : Except Error α × Parser} (h : Same r r') :
    r'.1.mapError Error.message = r.1.mapError Error.message ∧
      ∀ e e', r.1 = .error e → r'.1 = .error e' → e.Alike e' := by
  cases h with
  | ok a => exact ⟨rfl, fun _ _ h => by cases h⟩
  | error he =>
    refine ⟨congrArg Except.error he.message_eq.symm, fun _ _ h h' => ?_⟩
    rwa [← Except.error.inj h, ← Except.error.inj h']

def Agrees {α : Type} (x : Parse α) (s s' : Parser) : Prop :=
  Same (x s) (x s')

variable {α β : Type} {x : Parse α} {f : α → Parse β} {a : α} {k : Token.Kind} {n : Nat}
  {l : Phrase}

lemma agrees_pure (h : s.Alike s') : Agrees (pure a) s s' :=
  .ok a h

lemma agrees_refuse {e : ParseError} : Agrees (refuse e : Parse α) s s' :=
  .error (.refl _)

lemma agrees_bind_of_ok (hx : Agrees x s s')
    (hf : ∀ a t t', x s = (.ok a, t) → t.Alike t' → Agrees (f a) t t') :
    Agrees (x >>= f) s s' := by
  rcases hr : x s with ⟨r, t⟩
  rcases hr' : x s' with ⟨r', t'⟩
  rw [Agrees, hr, hr'] at hx
  cases hx with
  | ok a h =>
    rw [Agrees, bind_of_ok hr, bind_of_ok hr']
    exact hf a t t' hr h
  | error h =>
    rw [Agrees, bind_of_error hr, bind_of_error hr']
    exact .error h

lemma agrees_bind (hx : Agrees x s s') (hf : ∀ a t t', t.Alike t' → Agrees (f a) t t') :
    Agrees (x >>= f) s s' :=
  agrees_bind_of_ok hx fun a t t' _ => hf a t t'

lemma agrees_map {g : α → β} (hx : Agrees x s s') : Agrees (do return g (← x)) s s' :=
  agrees_bind hx fun _ _ _ => agrees_pure

lemma agrees_get_bind {f : Parser → Parse β} (hf : f s = f s') (h : Agrees (f s) s s') :
    Agrees (get >>= f) s s' := by
  rw [Agrees, get_bind, get_bind, ← hf]
  exact h

lemma agrees_currentKind_bind {f : Token.Kind → Parse β} (h : s.Alike s')
    (hf : Agrees (f (next s.tokens)) s s') : Agrees (currentKind >>= f) s s' := by
  rw [Agrees, currentKind_bind, currentKind_bind, ← h.next_eq]
  exact hf

lemma agrees_current_bind {f : Token → Parse β} (h : s.Alike s') (hn : next s.tokens ≠ .endOfInput)
    (hf : Agrees (f s.current) s s') : Agrees (current >>= f) s s' := by
  rw [Agrees, current_bind, current_bind, ← h.current.eq_of_kind_ne hn]
  exact hf

lemma agrees_advance_bind {f : Unit → Parse β} (h : s.Alike s')
    (hf : ∀ {s s'}, s.Alike s' → Agrees (f ()) s s') : Agrees (advance >>= f) s s' :=
  agrees_bind (.ok () h.tail) fun _ _ _ => hf

lemma agrees_unexpected {x : Expectation} (h : s.Alike s') :
    Agrees (unexpected x : Parse α) s s' :=
  .error (h.current.unexpected x)

lemma agrees_expect (hk : k ≠ .endOfInput) (h : s.Alike s') : Agrees (expect k) s s' := by
  by_cases hn : next s.tokens = k
  · refine agrees_current_bind h (hn ▸ hk) ?_
    rw [if_pos (by exact hn)]
    exact agrees_advance_bind h agrees_pure
  · have hx {p : Parser} (hp : next p.tokens ≠ k) : expect k p = unexpected (.token k) p := by
      rw [expect, current_bind, if_neg (by exact hp)]
    rw [Agrees, hx hn, hx (h.next_eq ▸ hn)]
    exact agrees_unexpected h

lemma agrees_attempt (h : s.Alike s') (hx : Agrees x s s') : Agrees (attempt x) s s' := by
  rcases hr : x s with ⟨r, t⟩
  rcases hr' : x s' with ⟨r', t'⟩
  rw [Agrees, hr, hr'] at hx
  cases hx with
  | ok a ht =>
    rw [Agrees, attempt_of_ok hr, attempt_of_ok hr']
    exact .ok _ ht
  | error =>
    rw [Agrees, attempt_of_error hr, attempt_of_error hr']
    exact .ok _ h

lemma agrees_separated (hx : ∀ {s s'}, s.Alike s' → Agrees x s s') (n : Nat) (h : s.Alike s') :
    Agrees (separated x n) s s' := by
  induction n generalizing s s' with
  | zero => exact agrees_pure h
  | succ n ih =>
    refine agrees_bind (hx h) fun a t t' h => agrees_currentKind_bind h ?_
    split
    · exact agrees_advance_bind h fun h => agrees_map (ih h)
    · exact agrees_pure h

lemma agrees_listOf (hx : ∀ {s s'}, s.Alike s' → Agrees x s s') (h : s.Alike s') :
    Agrees (listOf x) s s' := by
  refine agrees_bind (agrees_expect nofun h) fun _ t t' h => agrees_currentKind_bind h ?_
  split
  · exact agrees_advance_bind h agrees_pure
  · refine agrees_get_bind (by rw [h.tokens.length_eq]) ?_
    exact agrees_bind (agrees_separated hx _ h) fun _ _ _ h =>
      agrees_bind (agrees_expect nofun h) fun _ _ _ => agrees_pure

lemma agrees_functionHead (h : s.Alike s') : Agrees functionHead s s' :=
  agrees_bind (agrees_expect nofun h) fun _ _ _ h =>
    agrees_bind (agrees_listOf (agrees_expect nofun) h) fun _ _ _ h =>
      agrees_bind (agrees_expect nofun h) fun _ _ _ => agrees_pure

lemma agrees_expectEnd (h : s.Alike s') : Agrees expectEnd s s' := by
  refine agrees_currentKind_bind h ?_
  split
  · exact agrees_unexpected h
  · exact agrees_pure h

lemma agrees_charged (hx : ∀ {s s'}, s.Alike s' → Agrees x s s') (h : s.Alike s') :
    Agrees (charged x) s s' := by
  have hd : Parser.Alike { s with depth := s.depth + 1 } { s' with depth := s'.depth + 1 } :=
    ⟨h.tokens, congrArg (· + 1) h.depth⟩
  have hc : Agrees charge s s' := by
    by_cases hl : s.depth < limit
    · rw [Agrees, charge_of_lt hl, charge_of_lt (h.depth ▸ hl)]
      exact .ok () hd
    · rw [Agrees, charge_of_le (Nat.not_lt.mp hl), charge_of_le (Nat.not_lt.mp (h.depth ▸ hl))]
      exact .error (.refl _)
  refine agrees_bind hc fun _ _ _ h => agrees_bind (hx h) fun _ t t' h => ?_
  exact agrees_bind (.ok () ⟨h.tokens, congrArg (· - 1) h.depth⟩) fun _ _ _ => agrees_pure

lemma agrees_ofUnit {r : Except UnitError α} (h : s.Alike s') : Agrees (ofUnit r) s s' := by
  cases r
  · exact .error (.refl _)
  · exact .ok _ h

lemma agrees_unit (h : s.Alike s') (hu : isUnit (next s.tokens)) : Agrees unit s s' := by
  refine agrees_current_bind h (fun hn => ?_) ?_
  · rw [hn] at hu
    contradiction
  · split
    · exact agrees_refuse
    · exact agrees_bind (agrees_ofUnit h) fun _ _ _ h => agrees_bind (agrees_ofUnit h)
        fun _ _ _ h => agrees_advance_bind h agrees_pure

lemma agrees_number (h : s.Alike s') (hn : next s.tokens = .number) : Agrees number s s' := by
  refine agrees_current_bind h (by simp [hn]) (agrees_advance_bind h fun h => ?_)
  refine agrees_currentKind_bind h ?_
  split
  · next hu => exact agrees_map (agrees_unit h hu)
  · exact agrees_pure h

section Rules

variable (hn : ∀ r {s s'}, s.Alike s' → Agrees (Rule.reader n 0 r) s s') (h : s.Alike s')

include hn h

lemma agrees_expression : Agrees (expression (n + 1)) s s' :=
  agrees_charged (fun h => agrees_bind (hn .term h) fun l _ _ => hn (.sumAfter l)) h

lemma agrees_sumAfter : Agrees (sumAfter (n + 1) l) s s' := by
  refine agrees_currentKind_bind h ?_
  split
  · exact agrees_pure h
  · refine agrees_charged (fun h => agrees_advance_bind h fun h => ?_) h
    exact agrees_bind (hn .term h) fun r _ _ => hn (.sumAfter _)

lemma agrees_term : Agrees (term (n + 1)) s s' :=
  agrees_bind (hn .unary h) fun l _ _ => hn (.productAfter l)

lemma agrees_productAfter : Agrees (productAfter (n + 1) l) s s' := by
  refine agrees_currentKind_bind h ?_
  split
  · exact agrees_pure h
  · refine agrees_charged (fun h => agrees_advance_bind h fun h => ?_) h
    exact agrees_bind (hn .unary h) fun r _ _ => hn (.productAfter _)

lemma agrees_unary : Agrees (unary (n + 1)) s s' := by
  refine agrees_currentKind_bind h ?_
  split
  · exact agrees_charged (fun h => agrees_advance_bind h fun h => agrees_map (hn .unary h)) h
  · exact hn .power h

lemma agrees_power : Agrees (power (n + 1)) s s' := by
  refine agrees_bind (hn .operand h) fun b _ _ h => agrees_currentKind_bind h ?_
  split
  · exact agrees_charged (fun h => agrees_advance_bind h fun h => agrees_map (hn .unary h)) h
  · exact agrees_pure h

lemma agrees_inside {g : Phrase → Phrase} (hk : k ≠ .endOfInput) :
    Agrees (do let q ← Parse.expression n; let _ ← Parse.expect k; return g q) s s' :=
  agrees_bind (hn .expression h) fun _ _ _ h =>
    agrees_bind (agrees_expect hk h) fun _ _ _ => agrees_pure

lemma agrees_name {g : String} : Agrees (do
    if (← currentKind) = .openParen then return Phrase.call g (← Parse.listOf (Parse.expression n))
    else return .access g) s s' := by
  refine agrees_currentKind_bind h ?_
  split
  · exact agrees_map (agrees_listOf (hn .expression) h)
  · exact agrees_pure h

lemma agrees_operand : Agrees (operand (n + 1)) s s' := by
  refine agrees_currentKind_bind h ?_
  split
  · next hk => exact agrees_number h hk
  · next hk => exact agrees_map (agrees_unit h (by simp [hk, isUnit]))
  · next hk =>
    exact agrees_current_bind h (by simp [hk]) (agrees_advance_bind h fun h => agrees_name hn h)
  · exact agrees_advance_bind h fun h => agrees_inside hn h (by decide)
  · exact agrees_advance_bind h fun h => agrees_inside hn h (by decide)
  · exact agrees_unexpected h

end Rules

lemma agrees_argumentsAfter {g : String} {as : List Phrase} {m : Nat}
    (hx : ∀ {s s'}, s.Alike s' → Agrees (Parse.expression n) s s') (h : s.Alike s') :
    Agrees (Rule.reader n m (.argumentsAfter g as)) s s' :=
  agrees_bind (agrees_separated hx m h) fun _ _ _ h =>
    agrees_bind (agrees_expect nofun h) fun _ _ _ => agrees_pure

lemma agrees_reader (n m : Nat) (r : Rule) (h : s.Alike s') : Agrees (r.reader n m) s s' := by
  induction n generalizing m r s s' with
  | zero =>
    cases r with
    | argumentsAfter g as => exact agrees_argumentsAfter (fun _ => agrees_refuse) h
    | _ => exact agrees_refuse
  | succ n ih =>
    have hn (r : Rule) {s s' : Parser} : s.Alike s' → Agrees (r.reader n 0) s s' := ih 0 r
    cases r with
    | expression => exact agrees_expression hn h
    | sumAfter l => exact agrees_sumAfter hn h
    | term => exact agrees_term hn h
    | productAfter l => exact agrees_productAfter hn h
    | unary => exact agrees_unary hn h
    | power => exact agrees_power hn h
    | operand => exact agrees_operand hn h
    | argumentsAfter g as => exact agrees_argumentsAfter (agrees_expression hn) h

lemma agrees_wholeExpression (h : s.Alike s') : Agrees wholeExpression s s' :=
  agrees_reader _ 0 .expression h

lemma agrees_definition (h : s.Alike s') : Agrees definition s s' :=
  agrees_bind (agrees_expect nofun h) fun _ _ _ h =>
    agrees_bind (agrees_expect nofun h) fun _ _ _ h => agrees_map (agrees_wholeExpression h)

lemma agrees_functionOrExpression (h : s.Alike s') : Agrees functionOrExpression s s' := by
  refine agrees_bind (agrees_attempt h (agrees_functionHead h)) fun head _ _ h => ?_
  cases head with
  | none => exact agrees_wholeExpression h
  | some => exact agrees_map (agrees_wholeExpression h)

lemma agrees_statement (h : s.Alike s') : Agrees statement s s' := by
  have hk : s.current.kind = s'.current.kind := h.next_eq
  have hf : s.followingKind = s'.followingKind := h.tail.next_eq
  refine agrees_get_bind (by rw [hk, hf]) ?_
  split
  · exact agrees_definition h
  · split
    · exact agrees_functionOrExpression h
    · exact agrees_wholeExpression h

lemma agrees_command (h : s.Alike s') (hd : s.depth ≤ limit) (hr : ¬ Rendering s.tokens) :
    Agrees command s s' := by
  refine agrees_bind_of_ok (agrees_expect nofun h) fun c t t' hc h => ?_
  refine agrees_bind_of_ok (agrees_expect nofun h) fun k u u' hk h => ?_
  obtain ⟨hc, hcolon⟩ := ok_of_expect hc (by decide) hd
  obtain ⟨hk, hname⟩ := ok_of_expect hk (by decide) hc.depth_le'
  split
  · exact agrees_pure h
  · exact agrees_pure h
  · exact agrees_pure h
  · exact agrees_map (agrees_statement h)
  · exact agrees_map (agrees_statement h)
  · next hw => exact absurd ⟨c, k, u.tokens, (hc.trans hk).tokens_eq, hcolon, hname, hw⟩ hr
  · exact agrees_refuse

lemma agrees_line (h : s.Alike s') (hd : s.depth ≤ limit) (hr : ¬ Rendering s.tokens) :
    Agrees line s s' := by
  refine agrees_currentKind_bind h ?_
  split
  · exact agrees_bind (agrees_command h hd hr) fun _ _ _ h =>
      agrees_bind (agrees_expectEnd h) fun _ _ _ => agrees_pure
  · exact agrees_bind (agrees_map (agrees_statement h)) fun _ _ _ h =>
      agrees_bind (agrees_expectEnd h) fun _ _ _ => agrees_pure

end Parse

namespace Phrase

/-- Unless the text leaves a quote open or says to render, a comment behind it changes nothing: the
same phrase or the same message, and an error that differs at most in where the input ends. -/
theorem parse_append_comment {s c : String}
    (hq : ∀ t ∈ (Cursor.ofText s).tokens, ¬ Unended t.kind t.text)
    (hr : ¬ Rendering (Cursor.ofText s).tokens) (hc : '\n' ∉ c.toList) :
    (parse (s ++ "#" ++ c)).mapError Error.message = (parse s).mapError Error.message ∧
    ∀ e e', parse s = .error e → parse (s ++ "#" ++ c) = .error e' → e.Alike e' := by
  have ht : (s ++ "#" ++ c).toList = s.toList ++ '#' :: c.toList := by simp
  have hb : Cursor.ofText (s ++ "#" ++ c) = (Cursor.ofText s).before ('#' :: c.toList) :=
    congrArg (Cursor.mk · {} false) ht
  have h : Parser.Alike (.ofText s) (.ofText (s ++ "#" ++ c)) := by
    refine ⟨?_, rfl⟩
    rw [Parser.ofText, Parser.ofText, hb]
    exact Cursor.tokens_before hc _ hq
  exact (Parse.agrees_line h (Nat.zero_le _) hr).answer

theorem parse_unfinished_append_comment :
    (∀ t ∈ (Cursor.ofText "2 m-").tokens, ¬ Unended t.kind t.text) ∧
    ¬ Rendering (Cursor.ofText "2 m-").tokens ∧ '\n' ∉ " a \x27quote".toList ∧
    (parse ("2 m-" ++ "#" ++ " a \x27quote")).mapError Error.message =
      (parse "2 m-").mapError Error.message := by
  have hq : ∀ t ∈ (Cursor.ofText "2 m-").tokens, ¬ Unended t.kind t.text := by decide +kernel
  have hr : ¬ Rendering (Cursor.ofText "2 m-").tokens := by
    rintro ⟨c, t, us, hs, hk, -⟩
    have hn : next (Cursor.ofText "2 m-").tokens = .number := by decide +kernel
    rw [hs, next_cons, hk] at hn
    contradiction
  have hc : '\n' ∉ " a \x27quote".toList := by decide
  exact ⟨hq, hr, hc, (parse_append_comment hq hr hc).1⟩

end Phrase

end QuantityCalculator
