import QuantityCalculator.Proofs.Grammar.Unambiguous
import QuantityCalculator.Proofs.Reading.Shape
import QuantityCalculator.Proofs.Subphrase

/-!
The tokens that a phrase without units is read from, as the phrase tells them. Main statement: they
derive it, so that two phrases with the same tokens are the same.
-/

namespace QuantityCalculator

/-- A token with nothing but what the grammar asks of it. -/
def Token.bare (kind : Token.Kind) (text : String := "") : Token :=
  ⟨kind, text, {}⟩

def Operator.kind : Operator → Token.Kind
  | add => .plus
  | subtract => .minus
  | multiply => .asterisk
  | divide => .slash
  | power => .caret

open Token

namespace Phrase

def listed (items : List (List Token)) : List Token :=
  bare .openParen :: ([bare .comma].intercalate items ++ [bare .closeParen])

def parameterTokens (xs : List String) : List Token :=
  listed (xs.map fun x => [bare .name x])

mutual

def spelling : Phrase → List Token
  | number literal => [bare .number (if literal = "" then "1" else literal)]
  | binary o l r => l.spelling ++ bare o.kind :: r.spelling
  | negate p => bare .minus :: p.spelling
  | absolute p => bare .bar :: (p.spelling ++ [bare .bar])
  | group p => bare .openParen :: (p.spelling ++ [bare .closeParen])
  | measured v u => v.spelling ++ u.spelling
  | access x => [bare .name x]
  | call f as => bare .name f :: listed (spellings as)
  | define x p => bare .name x :: bare .equal :: p.spelling
  | defineFunction f xs p => bare .name f :: (parameterTokens xs ++ bare .equal :: p.spelling)
  | evaluate p => p.spelling
  | _ => []

def spellings : List Phrase → List (List Token)
  | [] => []
  | p :: ps => p.spelling :: spellings ps

end

lemma spellings_eq (ps : List Phrase) : spellings ps = ps.map spelling := by
  induction ps with
  | nil => rfl
  | cons p ps ih => rw [spellings, ih, List.map_cons]

def heading (items : List (List Token)) : List Token :=
  items.flatMap (· ++ [bare .comma])

lemma intercalate_append (items : List (List Token)) (last : List Token) :
    [bare .comma].intercalate (items ++ [last]) = heading items ++ last := by
  induction items with
  | nil => simp [heading]
  | cons i is ih =>
    rw [List.cons_append, List.intercalate_cons_of_ne_nil (by simp), ih]
    simp [heading]

end Phrase

namespace Grammar

open Parse Phrase

variable {r : Rule} {ts us : List Token} {p : Phrase} {k : Nat} {f : String} {xs : List String}

/-- What a rule reads, after the tokens of what stands to its left. -/
def Rule.spelled : Rule → List Token → List Token
  | .sumAfter l, ts | .productAfter l, ts => l.spelling ++ ts
  | .argumentsAfter f as, ts => bare .name f :: bare .openParen :: (heading (as.map spelling) ++ ts)
  | _, ts => ts

lemma Derives.given_occurs (h : Derives r ts p k) : ∀ q ∈ r.given, q.Occurs p := by
  induction h with
  | sumEnd | productEnd => simpa [Rule.given] using .self
  | sumNext _ _ _ _ ih | productNext _ _ _ _ ih =>
    simp only [Rule.given, List.forall_mem_singleton] at ih ⊢
    exact (Occurs.inside (by simp [children]) .self).trans ih
  | lastArgument => exact fun q hq => .inside (List.mem_append_left _ hq) .self
  | nextArgument _ _ _ _ ih => exact fun q hq => ih q (List.mem_append_left _ hq)
  | _ => simp [Rule.given]

lemma Derives.unitFree_given (h : Derives r ts p k) (hu : p.UnitFree) {q : Phrase}
    (hq : q ∈ r.given) : q.UnitFree :=
  fun fs hf => hu fs (hf.trans (h.given_occurs q hq))

lemma additive_kind {a : Token.Kind} {o : Operator} (h : additive? a = some o) :
    additive? o.kind = some o := by
  cases a <;> cases h <;> rfl

lemma multiplicative_kind {a : Token.Kind} {o : Operator} (h : multiplicative? a = some o) :
    multiplicative? o.kind = some o := by
  cases a <;> cases h <;> rfl

lemma not_unitFree_measured {v : Phrase} {fs : List Factor} : ¬ (measured v (unit fs)).UnitFree :=
  fun h => h fs (.inside (by simp [children]) .self)

lemma text_ne_empty {t : Token} (hr : Readable (t :: ts)) (hk : t.kind = .number) : t.text ≠ "" := by
  intro he
  have hn := (readable_cons.mp hr).1 hk
  rw [he] at hn
  contradiction

/-- The tokens of a phrase without units derive it. -/
lemma Derives.spelled (h : Derives r ts p k) (hr : Readable ts) (hu : p.UnitFree) :
    ∃ us, Derives r us p k ∧ r.spelled us = p.spelling := by
  induction h with
  | expression _ h ihl ihp =>
    obtain ⟨hrl, hrp⟩ := readable_append.mp hr
    obtain ⟨us, hl, hs⟩ := ihl hrl (h.unitFree_given hu (by simp [Rule.given]))
    obtain ⟨vs, hp, ht⟩ := ihp hrp hu
    exact ⟨us ++ vs, .expression hl hp, by simpa [Rule.spelled, ← hs] using ht⟩
  | term _ h ihl ihp =>
    obtain ⟨hrl, hrp⟩ := readable_append.mp hr
    obtain ⟨us, hl, hs⟩ := ihl hrl (h.unitFree_given hu (by simp [Rule.given]))
    obtain ⟨vs, hp, ht⟩ := ihp hrp hu
    exact ⟨us ++ vs, .term hl hp, by simpa [Rule.spelled, ← hs] using ht⟩
  | sumEnd => exact ⟨[], .sumEnd, by simp [Rule.spelled]⟩
  | productEnd => exact ⟨[], .productEnd, by simp [Rule.spelled]⟩
  | @sumNext t o _ _ l q _ _ _ ho _ h ihq ihp =>
    obtain ⟨hrq, hrp⟩ := readable_append.mp (readable_cons.mp hr).2
    have hb := h.unitFree_given hu (List.mem_singleton_self _)
    obtain ⟨us, hq, hs⟩ := ihq hrq (hb.child (by simp [children]))
    obtain ⟨vs, hp, ht⟩ := ihp hrp hu
    refine ⟨bare o.kind :: (us ++ vs), .sumNext (additive_kind ho) hq hp, ?_⟩
    simpa [Rule.spelled, Phrase.spelling, ← hs] using ht
  | @productNext t o _ _ l q _ _ _ ho _ h ihq ihp =>
    obtain ⟨hrq, hrp⟩ := readable_append.mp (readable_cons.mp hr).2
    have hb := h.unitFree_given hu (List.mem_singleton_self _)
    obtain ⟨us, hq, hs⟩ := ihq hrq (hb.child (by simp [children]))
    obtain ⟨vs, hp, ht⟩ := ihp hrp hu
    refine ⟨bare o.kind :: (us ++ vs), .productNext (multiplicative_kind ho) hq hp, ?_⟩
    simpa [Rule.spelled, Phrase.spelling, ← hs] using ht
  | minus _ _ ih =>
    obtain ⟨us, hp, hs⟩ := ih (readable_cons.mp hr).2 (hu.child (by simp [children]))
    exact ⟨bare .minus :: us, .minus rfl hp, by rw [Phrase.spelling, ← hs]; rfl⟩
  | unary _ ih =>
    obtain ⟨us, hp, hs⟩ := ih hr hu
    exact ⟨us, .unary hp, hs⟩
  | power _ ih =>
    obtain ⟨us, hp, hs⟩ := ih hr hu
    exact ⟨us, .power hp, hs⟩
  | raised _ _ _ ihb ihe =>
    obtain ⟨hrb, hre⟩ := readable_append.mp hr
    obtain ⟨us, hb, hs⟩ := ihb hrb (hu.child (by simp [children]))
    obtain ⟨vs, he, ht⟩ := ihe (readable_cons.mp hre).2 (hu.child (by simp [children]))
    exact ⟨us ++ bare .caret :: vs, .raised rfl hb he, by rw [Phrase.spelling, ← hs, ← ht]; rfl⟩
  | @number t hk =>
    refine ⟨[bare .number t.text], .number rfl, ?_⟩
    rw [Phrase.spelling, if_neg (text_ne_empty hr hk)]
    rfl
  | measured | quoted => exact absurd hu not_unitFree_measured
  | @access t => exact ⟨[bare .name t.text], .access rfl, rfl⟩
  | @callEmpty t =>
    exact ⟨[bare .name t.text, bare .openParen, bare .closeParen], .callEmpty rfl rfl rfl, rfl⟩
  | @call t _ _ _ _ _ _ _ ih =>
    obtain ⟨us, hp, hs⟩ := ih (readable_cons.mp (readable_cons.mp hr).2).2 hu
    exact ⟨bare .name t.text :: bare .openParen :: us, .call rfl rfl hp, hs⟩
  | @lastArgument _ f as a _ _ _ _ ih =>
    obtain ⟨us, ha, hs⟩ := ih (readable_append.mp hr).1 (hu.child (by simp [children]))
    refine ⟨us ++ [bare .closeParen], .lastArgument rfl ha, ?_⟩
    simp [Rule.spelled, Phrase.spelling, listed, spellings_eq, intercalate_append, ← hs]
  | nextArgument _ _ h iha ihp =>
    obtain ⟨hra, hrp⟩ := readable_append.mp hr
    obtain ⟨us, ha, hs⟩ := iha hra (h.unitFree_given hu (by simp [Rule.given]))
    obtain ⟨vs, hp, ht⟩ := ihp (readable_cons.mp hrp).2 hu
    refine ⟨us ++ bare .comma :: vs, .nextArgument rfl ha hp, ?_⟩
    simpa [Rule.spelled, heading, ← hs] using ht
  | group _ _ _ ih =>
    have hri := (readable_append.mp (readable_cons.mp hr).2).1
    obtain ⟨us, hp, hs⟩ := ih hri (hu.child (by simp [children]))
    refine ⟨bare .openParen :: (us ++ [bare .closeParen]), .group rfl rfl hp, ?_⟩
    rw [Phrase.spelling, ← hs]
    rfl
  | absolute _ _ _ ih =>
    have hri := (readable_append.mp (readable_cons.mp hr).2).1
    obtain ⟨us, hp, hs⟩ := ih hri (hu.child (by simp [children]))
    refine ⟨bare .bar :: (us ++ [bare .bar]), .absolute rfl rfl hp, ?_⟩
    rw [Phrase.spelling, ← hs]
    rfl

lemma Derives.spelling (h : Derives .expression ts p k) (hr : Readable ts) (hu : p.UnitFree) :
    Derives .expression p.spelling p k := by
  obtain ⟨us, hp, hs⟩ := h.spelled hr hu
  exact hs ▸ hp

lemma Parameters.spelling (h : Parameters ts xs) :
    Parameters ([bare .comma].intercalate (xs.map fun x => [bare .name x]) ++ [bare .closeParen])
      xs := by
  induction h with
  | @last t => simpa using .last (t := bare .name t.text) rfl rfl
  | @more t _ _ xs _ _ h ih =>
    have hn : xs ≠ [] := by rintro rfl; cases h
    rw [List.map_cons, List.intercalate_cons_of_ne_nil (by simpa using hn)]
    simpa using .more (t := bare .name t.text) (c := bare .comma) rfl rfl ih

lemma Head.spelling (h : Head ts f xs) :
    Head (bare .name f :: (parameterTokens xs ++ [bare .equal])) f xs := by
  cases h with
  | @plain t => exact .plain (t := bare .name t.text) rfl rfl rfl rfl
  | @parameters t _ _ _ _ _ _ hp =>
    have h : Head _ t.text xs := .parameters (t := bare .name t.text) (o := bare .openParen)
      (e := bare .equal) rfl rfl hp.spelling rfl
    simpa only [parameterTokens, listed, List.cons_append, List.append_assoc] using h

lemma Statement.spelling (h : Statement ts p k) (hr : Readable ts) (hu : p.UnitFree) :
    Statement p.spelling p k := by
  cases h with
  | expression h => exact .expression (h.spelling hr hu)
  | @define t _ _ p _ _ _ h =>
    have hrp := (readable_cons.mp (readable_cons.mp hr).2).2
    exact .define (t := bare .name t.text) (e := bare .equal) rfl rfl
      (h.spelling hrp (hu.child (by simp [children])))
  | @defineFunction _ _ f xs p _ hh h =>
    have hp := h.spelling (readable_append.mp hr).2 (hu.child (by simp [children]))
    have hs := Statement.defineFunction hh.spelling hp
    simpa only [Phrase.spelling, List.cons_append, List.append_assoc, List.nil_append] using hs

lemma Line.statement_of_evaluate (h : Line ts (.evaluate p) k) (hr : Readable ts) :
    ∃ us, Statement us p k ∧ Readable us := by
  cases h with
  | statement h => exact ⟨_, h, hr⟩
  | evaluate _ h => exact ⟨_, h, (readable_cons.mp (readable_cons.mp hr).2).2⟩

/-- No two phrases without units have the same tokens. -/
lemma Statement.spelling_injective {q : Phrase} {j : Nat} (h : Statement ts p k)
    (h' : Statement us q j) (hr : Readable ts) (hr' : Readable us) (hp : p.UnitFree)
    (hq : q.UnitFree) (hs : p.spelling = q.spelling) : p = q :=
  (h.spelling hr hp).unique (hs ▸ h'.spelling hr' hq) |>.1

lemma Statement.spelling_ne_nil (h : Statement ts p k) (hr : Readable ts) (hu : p.UnitFree) :
    p.spelling ≠ [] := by
  have hs := h.spelling hr hu
  intro hn
  rw [hn] at hs
  generalize he : [] = us at hs
  cases hs with
  | expression h => exact (h.begins (by simp) (by simp)).1 he.symm
  | define => cases he
  | defineFunction hh => cases hh <;> cases he

end Grammar

end QuantityCalculator
