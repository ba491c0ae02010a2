import QuantityCalculator.Proofs.Reading.Words
import QuantityCalculator.Proofs.Scanning.Longest
import QuantityCalculator.Proofs.Typesetting.Rows
import QuantityCalculator.Proofs.Typesetting.Spelling

/-!
Formulas read back as tokens. Main statement: two phrases without units that were read and are typeset
alike are the same.
-/

namespace QuantityCalculator

open Text Lexeme Token

namespace Formula

def word (c : Char) (s : List Char) : List Token × List Char :=
  match number (c :: s) with
  | some (w, r) => ([bare .number (String.ofList w)], r)
  | none =>
    if isWordStart c then
      ([bare .name (String.ofList ((c :: s).takeWhile isWord))], (c :: s).dropWhile isWord)
    else ((symbol? c).toList.map (bare ·), s)

/-- What the beginning of a formula says, and what comes after it. The braces in the middle of a
fraction say what divides it. -/
def lead : Char → List Char → List Token × List Char
  | '\\', s => (if s.takeWhile isWord = "cdot".toList then [bare .asterisk] else [], s.dropWhile isWord)
  | '\x7d', '\x7b' :: s => ([bare .slash], s)
  | c, s => word c s

lemma length_word_le (c : Char) (s : List Char) : (word c s).2.length ≤ s.length := by
  fun_cases word c s with
  | case1 w r h => exact Nat.le_of_lt_succ (splits_number.length_lt h (number_ne_nil h))
  | case2 _ hw =>
    rw [List.dropWhile_cons_of_pos (isWord_of_isWordStart hw)]
    exact (List.dropWhile_sublist isWord).length_le
  | case3 => exact Nat.le_refl _

lemma length_lead_le (c : Char) (s : List Char) : (lead c s).2.length ≤ s.length := by
  fun_cases lead c s with
  | case1 => exact (List.dropWhile_sublist isWord).length_le
  | case2 => exact Nat.le_succ _
  | case3 c s => exact length_word_le c s

def tokens : List Char → List Token
  | [] => []
  | c :: s => (lead c s).1 ++ tokens (lead c s).2
termination_by s => s.length
decreasing_by exact Nat.lt_succ_of_le (length_lead_le c s)

variable {s w r : List Char} {c : Char} {k : Token.Kind} {t l : String} {ts : List String}
  {u us vs : List Token} {uss : List (List Token)}

lemma tokens_of_lead (h : lead c s = (u, r)) : tokens (c :: s) = u ++ tokens r := by
  rw [tokens, h]

lemma tokens_of_word (h : word c s = (u, r)) (hc : c ≠ '\\')
    (hs : c = '\x7d' → s.head? ≠ some '\x7b') : tokens (c :: s) = u ++ tokens r := by
  apply tokens_of_lead
  rw [lead, h]
  · exact hc
  · rintro _ hc rfl
    exact hs hc rfl

lemma number_eq_none (hc : c.isDigit = false) : number (c :: s) = none := by
  refine Munch.followedBy_of_none (Munch.followedBy_of_none ?_)
  rw [digits, Munch.run, List.takeWhile_cons_of_neg (by simp [hc])]

lemma tokens_number (hw : Numeral.Literal w)
    (hs : ∀ c ∈ s.head?, c.isDigit = false ∧ c ≠ '.' ∧ c ≠ 'e' ∧ c ≠ 'E') :
    tokens (w ++ s) = bare .number (String.ofList w) :: tokens s := by
  have hn := Numeral.takes_number.exact splits_number hw hs
  rcases he : w ++ s with _ | ⟨c, r⟩
  · rw [he] at hn
    contradiction
  · rw [he] at hn
    have hd : c.isDigit := by
      by_contra hd
      rw [number_eq_none (by simpa using hd)] at hn
      contradiction
    apply tokens_of_word (u := [_])
    · rw [word, hn]
    · rintro rfl
      contradiction
    · rintro rfl
      contradiction

lemma tokens_name (hw : IsName w) (hs : ∀ c ∈ s.head?, isWord c = false) :
    tokens (w ++ s) = bare .name (String.ofList w) :: tokens s := by
  obtain ⟨⟨c, hc, hb⟩, hw⟩ := hw
  obtain ⟨v, rfl⟩ := List.head?_eq_some_iff.mp hc
  have hd : c.isDigit = false := by
    by_contra hd
    have hl := isLetter_of_isDigit (by simpa using hd)
    obtain rfl : c = '_' := by simpa [isWordStart, hl] using hb
    contradiction
  obtain ⟨ht, hr⟩ := span_append hw hs
  apply tokens_of_word (u := [_])
  · simp only [word, number_eq_none hd, if_pos hb]
    change ([bare .name (String.ofList ((c :: v ++ s).takeWhile isWord))],
      (c :: v ++ s).dropWhile isWord) = _
    rw [ht, hr]
  · rintro rfl
    contradiction
  · rintro rfl
    contradiction

lemma tokens_symbol (h : symbol? c = some k) : tokens (c :: s) = bare k :: tokens s := by
  unfold symbol? at h
  split at h <;> cases h <;> exact tokens_of_lead rfl

lemma tokens_blank (h : c = ' ' ∨ c = '&' ∨ c = '\x7b') : tokens (c :: s) = tokens s := by
  obtain rfl | rfl | rfl := h <;> exact tokens_of_lead rfl

lemma tokens_close (h : s.head? ≠ some '\x7b') : tokens ('\x7d' :: s) = tokens s :=
  tokens_of_word (u := []) rfl (by decide) fun _ => h

lemma tokens_dot (s : List Char) : tokens (" \\cdot ".toList ++ s) = bare .asterisk :: tokens s := by
  have h : lead '\\' ("cdot ".toList ++ s) = ([bare .asterisk], ' ' :: s) := rfl
  change tokens (' ' :: '\\' :: ("cdot ".toList ++ s)) = _
  rw [tokens_blank (.inl rfl), tokens_of_lead h, tokens_blank (.inl rfl)]
  rfl

lemma tokens_fraction (s : List Char) : tokens ("\\frac\x7b".toList ++ s) = tokens s := by
  have h : lead '\\' ("frac\x7b".toList ++ s) = ([], '\x7b' :: s) := rfl
  change tokens ('\\' :: ("frac\x7b".toList ++ s)) = _
  rw [tokens_of_lead h, tokens_blank (by simp)]
  rfl

def Ends (c : Char) : Prop :=
  c = ' ' ∨ c = '\x7d' ∨ c = ')' ∨ c = '|' ∨ c = ','

lemma Ends.stops (h : Ends c) : isWord c = false ∧
    (c.isDigit = false ∧ c ≠ '.' ∧ c ≠ 'e' ∧ c ≠ 'E') ∧ c ≠ '\x7b' := by
  obtain rfl | rfl | rfl | rfl | rfl := h <;> decide

/-- A text is read as these tokens wherever it ends inside a formula. -/
def Reads (t : String) (us : List Token) : Prop :=
  ∀ s, (∀ c ∈ s.head?, Ends c) → tokens (t.toList ++ s) = us ++ tokens s

lemma Reads.number (h : Numeral.Literal t.toList) : Reads t [bare .number t] := by
  intro s hs
  rw [tokens_number h fun c hc => (hs c hc).stops.2.1, String.ofList_toList]
  rfl

lemma Reads.name (h : IsName t.toList) : Reads t [bare .name t] := by
  intro s hs
  rw [tokens_name h fun c hc => (hs c hc).stops.1, String.ofList_toList]
  rfl

lemma Reads.operator {r : String} (hl : Reads l us) (hr : Reads r vs) (o : Operator) :
    Reads (o.formula l r) (us ++ bare o.kind :: vs) := by
  intro s hs
  have hc : tokens (r.toList ++ '\x7d' :: s) = vs ++ tokens s := by
    rw [hr _ (by simp [Ends]), tokens_close]
    intro h
    exact (hs _ h).stops.2.2 rfl
  cases o with
  | add | subtract =>
    simp only [Operator.formula, String.toList_append, List.append_assoc, Operator.kind]
    rw [hl _ (by simp [Ends])]
    change us ++ tokens (' ' :: _ :: ' ' :: (r.toList ++ s)) = _
    rw [tokens_blank (.inl rfl), tokens_symbol rfl, tokens_blank (.inl rfl), hr s hs]
    rfl
  | multiply =>
    simp only [Operator.formula, String.toList_append, List.append_assoc, Operator.kind]
    rw [hl _ (by simp [Ends]), tokens_dot, hr s hs]
    rfl
  | divide =>
    simp only [Operator.formula, braced, String.toList_append, List.append_assoc, Operator.kind]
    change tokens ("\\frac\x7b".toList ++
      (l.toList ++ '\x7d' :: '\x7b' :: (r.toList ++ '\x7d' :: s))) = _
    rw [tokens_fraction, hl _ (by simp [Ends]), tokens_of_lead (u := [bare .slash]) rfl, hc]
    rfl
  | power =>
    simp only [Operator.formula, braced, String.toList_append, List.append_assoc, Operator.kind]
    change tokens ('\x7b' :: (l.toList ++ '\x7d' :: '^' :: '\x7b' :: (r.toList ++ '\x7d' :: s))) = _
    rw [tokens_blank (by simp), hl _ (by simp [Ends]), tokens_close (by simp), tokens_symbol rfl,
      tokens_blank (by simp), hc]
    rfl

lemma Reads.sign {a : String} (ha : a.toList = [c]) (hc : symbol? c = some k) (ht : Reads t us) :
    Reads (a ++ t) (bare k :: us) := by
  intro s hs
  rw [String.toList_append, ha, List.append_assoc, List.singleton_append, tokens_symbol hc, ht s hs]
  rfl

lemma Reads.enclosed {a b : String} {d : Char} {j : Token.Kind} (ha : a.toList = [c])
    (hc : symbol? c = some k) (hb : b.toList = [d]) (hd : symbol? d = some j) (he : Ends d)
    (ht : Reads t us) : Reads (a ++ t ++ b) (bare k :: (us ++ [bare j])) := by
  intro s _
  rw [String.append_assoc, String.toList_append, ha, List.append_assoc, List.singleton_append,
    tokens_symbol hc, String.toList_append, hb, List.append_assoc, List.singleton_append,
    ht _ (by simpa using he), tokens_symbol hd]
  simp

lemma Reads.beside {r : String} (hl : Reads l us) (hr : Reads r vs) :
    Reads (l ++ " " ++ r) (us ++ vs) := by
  intro s hs
  simp only [String.toList_append, List.append_assoc]
  rw [hl _ (by simp [Ends])]
  change us ++ tokens (' ' :: (r.toList ++ s)) = _
  rw [tokens_blank (.inl rfl), hr s hs]

lemma Reads.list (h : List.Forall₂ Reads ts uss) :
    Reads (", ".intercalate ts) ([bare .comma].intercalate uss) := by
  induction h with
  | nil => exact fun _ _ => rfl
  | @cons t us ts uss ht h ih =>
    rcases h with _ | @⟨t', us', ts, uss, ht', h⟩
    · simpa using ht
    · intro s hs
      rw [String.intercalate_cons_of_ne_nil (by simp), List.intercalate_cons_of_ne_nil (by simp)]
      simp only [String.toList_append, List.append_assoc]
      rw [ht _ (by simp [Ends])]
      change us ++ tokens (',' :: ' ' :: ((", ".intercalate (t' :: ts)).toList ++ s)) = _
      rw [tokens_symbol rfl, tokens_blank (.inl rfl), ih s hs]
      rfl

lemma Reads.application {f : String} (hf : IsName f.toList) (h : List.Forall₂ Reads ts uss) :
    Reads (Phrase.application f ts) (bare .name f :: Phrase.listed uss) := by
  intro s hs
  have hl : Reads ("(" ++ ", ".intercalate ts ++ ")") (Phrase.listed uss) :=
    .enclosed (c := '(') (d := ')') rfl rfl rfl rfl (by simp [Ends]) (.list h)
  have ht : Phrase.application f ts = f ++ ("(" ++ ", ".intercalate ts ++ ")") := by
    simp only [Phrase.application, String.append_assoc]
  have hn := tokens_name (s := ("(" ++ ", ".intercalate ts ++ ")").toList ++ s) hf (by simp; decide)
  rw [ht, String.toList_append, List.append_assoc, hn, hl s hs, String.ofList_toList]
  rfl

lemma Reads.equation {r : String} (hl : Reads l us) (hr : Reads r vs) :
    Reads (equation l r) (us ++ bare .equal :: vs) := by
  intro s hs
  simp only [QuantityCalculator.equation, String.toList_append, List.append_assoc]
  rw [hl _ (by simp [Ends])]
  change us ++ tokens (' ' :: '&' :: '=' :: '&' :: ' ' :: (r.toList ++ s)) = _
  rw [tokens_blank (.inl rfl), tokens_blank (by simp), tokens_symbol rfl, tokens_blank (by simp),
    tokens_blank (.inl rfl), hr s hs]
  rfl

end Formula

namespace Phrase

open Formula

variable {p : Phrase}

lemma IsExpression.reads (h : p.IsExpression) :
    ∃ t, p.row = .ok (.math t) ∧ (p.Proper → p.UnitFree → Reads t p.spelling) := by
  refine h.row_induction (R := fun p t => p.Proper → p.UnitFree → Reads t p.spelling)
    ?number ?binary ?negate ?absolute ?group ?unit ?measured ?access ?call
  case number =>
    intro s hw _
    have hl : s = "" ∨ Numeral.Literal s.toList := hw _ .self
    apply Reads.number
    split
    · have hd : Numeral.Digits ['1'] := ⟨by simp, by simp⟩
      exact .mk hd .none .none
    · next hn => exact hl.resolve_left hn
  case binary =>
    intro o l r a b ihl ihr hw hu
    have hl := ihl (hw.child (by simp [children])) (hu.child (by simp [children]))
    have hr := ihr (hw.child (by simp [children])) (hu.child (by simp [children]))
    exact hl.operator hr o
  case negate =>
    intro p t ih hw hu
    exact .sign rfl rfl (ih (hw.child (by simp [children])) (hu.child (by simp [children])))
  case absolute =>
    intro p t ih hw hu
    have hr := ih (hw.child (by simp [children])) (hu.child (by simp [children]))
    exact .enclosed (c := '|') (d := '|') rfl rfl rfl rfl (by simp [Ends]) hr
  case group =>
    intro p t ih hw hu
    have hr := ih (hw.child (by simp [children])) (hu.child (by simp [children]))
    exact .enclosed (c := '(') (d := ')') rfl rfl rfl rfl (by simp [Ends]) hr
  case unit => exact fun fs _ _ _ hu => absurd .self (hu fs)
  case measured =>
    intro v u a b ihv ihu hw hu
    have hv := ihv (hw.child (by simp [children])) (hu.child (by simp [children]))
    have hb := ihu (hw.child (by simp [children])) (hu.child (by simp [children]))
    split
    · next hn =>
      subst hn
      have hs : u.spelling = [] := by simpa [tokens] using (hb [] (by simp)).symm
      rwa [spelling, hs, List.append_nil]
    · exact hv.beside hb
  case access => exact fun x hw _ => .name (hw _ .self)
  case call =>
    intro f as ts ih hw hu
    rw [spelling, spellings_eq]
    have hc : ∀ a ∈ as, a.Proper ∧ a.UnitFree := fun a ha => ⟨hw.child ha, hu.child ha⟩
    have hs := (List.forall₂_and_left as ts).mpr ⟨hc, ih⟩
    refine .application (hw _ .self) ?_
    rw [List.forall₂_map_right_iff]
    exact (hs.imp fun _ _ h => h.2 h.1.1 h.1.2).flip

lemma IsStatement.reads (h : p.IsStatement) (hw : p.Proper) (hu : p.UnitFree) :
    ∃ t, p.row = .ok (.math t) ∧ Reads t p.spelling := by
  cases h with
  | expression h =>
    obtain ⟨t, ht, hr⟩ := h.reads
    exact ⟨t, ht, hr hw hu⟩
  | @define x _ h =>
    obtain ⟨t, ht, hr⟩ := h.reads
    have hr := hr (hw.child (by simp [children])) (hu.child (by simp [children]))
    have hx : IsName x.toList := hw _ .self
    exact ⟨_, row_define x ht, (Reads.name hx).equation hr⟩
  | @defineFunction f xs _ h =>
    obtain ⟨t, ht, hr⟩ := h.reads
    have hr := hr (hw.child (by simp [children])) (hu.child (by simp [children]))
    obtain ⟨hf, hx⟩ : IsName f.toList ∧ ∀ x ∈ xs, IsName x.toList := hw _ .self
    have hxs : List.Forall₂ Reads xs (xs.map fun x => [bare .name x]) := by
      rw [List.forall₂_map_right_iff, List.forall₂_same]
      exact fun x h => .name (hx x h)
    exact ⟨_, row_defineFunction f xs ht, (Reads.application hf hxs).equation hr⟩

lemma tokens_newline : tokens "\\\\".toList = [] := by
  have h : tokens ['\\'] = [] := by
    rw [tokens_of_lead (u := []) (r := []) rfl, tokens]
    rfl
  exact (tokens_of_lead (u := []) (r := ['\\']) rfl).trans h

lemma tokens_of_row {s t : String} (hp : parse s = .ok p) (hu : p.UnitFree)
    (ht : p.row = .ok (.math t)) :
    p = newline ∧ tokens t.toList = [] ∨ ∃ q ts k, p = evaluate q ∧ q.UnitFree ∧
      Grammar.Statement ts q k ∧ Grammar.Readable ts ∧ tokens t.toList = q.spelling := by
  cases hl : isLine_of_parse hp with
  | @evaluate q hq =>
    right
    have hu : q.UnitFree := hu.child (by simp [children])
    obtain ⟨u, hr, hs⟩ := hq.reads ((proper_of_parse hp).child (by simp [children])) hu
    obtain rfl : u = t := by
      have hq : q.row = .ok (.math t) := ht
      simpa [hr] using hq
    obtain ⟨k, ⟨ts, e, hts, -, hd⟩, -⟩ | ⟨-, path, he⟩ := Grammar.derivable_or_render hp
    · have hts : Grammar.Readable ts := (Grammar.readable_append.mp (hts ▸ readable_ofText s)).1
      obtain ⟨us, hd, hus⟩ := hd.statement_of_evaluate hts
      exact ⟨q, us, k, rfl, hu, hd, hus, by simpa [tokens] using hs [] (by simp)⟩
    · cases he
  | newline =>
    left
    cases ht
    exact ⟨rfl, tokens_newline⟩
  | exclude | render | exit | quit => cases ht

/-- Two phrases that were read, with no unit in them, are the same where they are typeset as the same
row. -/
theorem eq_of_row_eq {s s' t : String} {q : Phrase} (hp : parse s = .ok p) (hq : parse s' = .ok q)
    (hu : p.UnitFree) (hv : q.UnitFree) (ht : p.row = .ok (.math t)) (ht' : q.row = .ok (.math t)) :
    p = q := by
  obtain ⟨rfl, hn⟩ | ⟨p, ts, k, rfl, hu, hd, hr, hs⟩ := tokens_of_row hp hu ht
  · obtain ⟨rfl, -⟩ | ⟨q, us, j, rfl, hv, he, hr', hs'⟩ := tokens_of_row hq hv ht'
    · rfl
    · exact absurd (hs'.symm.trans hn) (he.spelling_ne_nil hr' hv)
  · obtain ⟨rfl, hn⟩ | ⟨q, us, j, rfl, hv, he, hr', hs'⟩ := tokens_of_row hq hv ht'
    · exact absurd (hs.symm.trans hn) (hd.spelling_ne_nil hr hu)
    · rw [hd.spelling_injective he hr hr' hu hv (hs.symm.trans hs')]

theorem power_is_read_back : ∃ p q, parse ":evaluate -2^x" = .ok p ∧ parse "-2 ** x" = .ok q ∧
    p.UnitFree ∧ q.UnitFree ∧ p.row = .ok (.math "-\x7b2\x7d^\x7bx\x7d") ∧
    q.row = .ok (.math "-\x7b2\x7d^\x7bx\x7d") ∧ p = q := by
  have hl : (number "2").UnitFree := unitFree_of_children (by simp) (by simp [children])
  have hr : (access "x").UnitFree := unitFree_of_children (by simp) (by simp [children])
  have hb : (binary .power (number "2") (access "x")).UnitFree :=
    unitFree_of_children (by simp) (by simp [children, hl, hr])
  have hn : (negate (binary .power (number "2") (access "x"))).UnitFree :=
    unitFree_of_children (by simp) (by simp [children, hb])
  have hu : (evaluate (negate (binary .power (number "2") (access "x")))).UnitFree :=
    unitFree_of_children (by simp) (by simp [children, hn])
  have hp : parse ":evaluate -2^x" =
      .ok (evaluate (negate (binary .power (number "2") (access "x")))) := by
    with_unfolding_all rfl
  have hq : parse "-2 ** x" = .ok (evaluate (negate (binary .power (number "2") (access "x")))) := by
    with_unfolding_all rfl
  exact ⟨_, _, hp, hq, hu, hu, rfl, rfl, eq_of_row_eq hp hq hu hu rfl rfl⟩

end Phrase

end QuantityCalculator
