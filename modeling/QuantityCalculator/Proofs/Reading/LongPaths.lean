import QuantityCalculator.Proofs.Reading.Paths

/-!
Texts whose phrases have paths as long as the charges admit: what is nested begins a product, and
the product begins a sum.
-/

namespace QuantityCalculator.Grammar

open Parse Phrase Text

/-- Before a text that cannot prolong its last token, `cs` is read by a rule. -/
def Spells (r : Rule) (cs : List Char) (p : Phrase) (k : Nat) : Prop :=
  ∀ rest place, (∀ c ∈ rest.head?, isWord c = false) → ∃ ts place',
    Cursor.tokens ⟨cs ++ rest, place, false⟩ = ts ++ Cursor.tokens ⟨rest, place', false⟩ ∧
      Derives r ts p k

def operands (c : Char) (n : Nat) : List Char :=
  (List.replicate n [c, 'x']).flatten

def chain (o : Operator) : Nat → Phrase → Phrase
  | 0, l => l
  | n + 1, l => chain o n (.binary o l (.access "x"))

variable {r : Phrase → Rule} {cs ds rest : List Char} {p l : Phrase} {o : Operator} {j k n : Nat}
  {c : Char} {a : Token.Kind}

lemma spells_name (h : ∀ c ∈ rest.head?, isWord c = false) (place : Place) :
    ∃ place', Cursor.tokens ⟨'x' :: rest, place, false⟩ =
      ⟨.name, "x", place⟩ :: Cursor.tokens ⟨rest, place', false⟩ := by
  have hr : rest.takeWhile isWord = [] ∧ rest.dropWhile isWord = rest := by
    rcases rest with _ | ⟨c, t⟩ <;> simp_all
  have hw : isWord 'x' = true := rfl
  have ht : ('x' :: rest).takeWhile isWord = ['x'] := by rw [List.takeWhile_cons_of_pos hw, hr.1]
  have hd : ('x' :: rest).dropWhile isWord = rest := by rw [List.dropWhile_cons_of_pos hw, hr.2]
  have hx : Lexeme.ofChars false ('x' :: rest) = ⟨.name, "x", ['x'], rest⟩ := by
    change Lexeme.verbatim _ _ _ = _
    rw [ht, hd]
    rfl
  exact Cursor.tokens_first 'x' rest rfl hx rfl place

lemma spells_call : Spells .operand ['f', '(', ')'] (.call "f" []) 0 := by
  intro rest place _
  obtain ⟨p₁, h₁⟩ := Cursor.tokens_first 'f' ('(' :: ')' :: rest) rfl rfl rfl place
  obtain ⟨p₂, h₂⟩ := Cursor.tokens_first '(' (')' :: rest) rfl rfl rfl p₁
  obtain ⟨p₃, h₃⟩ := Cursor.tokens_first ')' rest rfl rfl rfl p₂
  have ht := h₁.trans (congrArg _ (h₂.trans (congrArg _ h₃)))
  exact ⟨[⟨.name, "f", place⟩, ⟨.openParen, "(", p₁⟩, ⟨.closeParen, ")", p₂⟩], p₃, ht,
    .callEmpty rfl rfl rfl⟩

lemma Spells.group (h : Spells .expression cs p k) :
    Spells .operand ('(' :: (cs ++ [')'])) (.group p) k := by
  intro rest place _
  obtain ⟨p₁, h₁⟩ := Cursor.tokens_first '(' (cs ++ ')' :: rest) rfl rfl rfl place
  obtain ⟨ts, p₂, h₂, hp⟩ := h (')' :: rest) p₁ (by simp; decide)
  obtain ⟨p₃, h₃⟩ := Cursor.tokens_first ')' rest rfl rfl rfl p₂
  refine ⟨⟨.openParen, "(", place⟩ :: (ts ++ [⟨.closeParen, ")", p₂⟩]), p₃, ?_, .group rfl rfl hp⟩
  have ht := h₁.trans (congrArg _ (h₂.trans (congrArg _ h₃)))
  simp only [List.cons_append, List.append_assoc, List.nil_append]
  exact ht

lemma head_operands (hc : isWord c = false) (h : ∀ d ∈ rest.head?, isWord d = false) :
    ∀ d ∈ (operands c n ++ rest).head?, isWord d = false := by
  cases n with
  | zero => exact h
  | succ n => simpa [operands, List.replicate_succ] using hc

lemma spells_operands (hc : isWord c = false)
    (hb : ∀ rest, splitBlanks false (c :: rest) = ([], c :: rest))
    (hx : ∀ rest, Lexeme.ofChars false (c :: 'x' :: rest) = ⟨a, c.toString, [c], 'x' :: rest⟩)
    (ha : a ≠ .number) (hend : ∀ p, Derives (r p) [] p 0)
    (hnext : ∀ {t u us l p k}, t.kind = a → u.kind = .name →
      Derives (r (.binary o l (.access u.text))) us p k → Derives (r l) (t :: u :: us) p (k + 1)) :
    Spells (r l) (operands c n) (chain o n l) n := by
  induction n generalizing l with
  | zero => exact fun rest place _ => ⟨[], place, rfl, hend l⟩
  | succ n ih =>
    intro rest place h
    obtain ⟨p₁, h₁⟩ := Cursor.tokens_first c _ (hb _) (hx (operands c n ++ rest))
      (decide_eq_false ha) place
    obtain ⟨p₂, h₂⟩ := spells_name (head_operands hc h) p₁
    obtain ⟨ts, p₃, h₃, hp⟩ := ih (l := .binary o l (.access "x")) rest p₂ h
    refine ⟨⟨a, c.toString, place⟩ :: ⟨.name, "x", p₁⟩ :: ts, p₃, ?_, hnext rfl rfl hp⟩
    exact h₁.trans (congrArg _ (h₂.trans (congrArg _ h₃)))

lemma spells_product : Spells (.productAfter l) (operands '*' n) (chain .multiply n l) n := by
  refine spells_operands rfl (fun _ => rfl) (fun _ => rfl) nofun (fun _ => .productEnd) ?_
  intro t u us l p k ht hu hp
  have h := Derives.productNext (by rw [ht]; rfl) (.unary (.power (.access hu))) hp
  rwa [Nat.zero_max] at h

lemma spells_sum : Spells (.sumAfter l) (operands '+' n) (chain .add n l) n := by
  refine spells_operands rfl (fun _ => rfl) (fun _ => rfl) nofun (fun _ => .sumEnd) ?_
  intro t u us l p k ht hu hp
  have h := Derives.sumNext (by rw [ht]; rfl) (.term (.unary (.power (.access hu))) .productEnd) hp
  rwa [Nat.max_self, Nat.zero_max] at h

lemma Spells.expression (h : Spells .operand cs p k) (m n : Nat) :
    Spells .expression (cs ++ operands '*' m ++ operands '+' n)
      (chain .add n (chain .multiply m p)) (max (max k m) n + 1) := by
  intro rest place hr
  have hs := head_operands (c := '+') (n := n) rfl hr
  obtain ⟨ts, p₁, h₁, hp⟩ := h _ place (head_operands (c := '*') (n := m) rfl hs)
  obtain ⟨us, p₂, h₂, hq⟩ := spells_product (l := p) (n := m) _ p₁ hs
  obtain ⟨vs, p₃, h₃, hl⟩ := spells_sum (l := chain .multiply m p) (n := n) rest p₂ hr
  refine ⟨ts ++ us ++ vs, p₃, ?_, .expression (.term (.unary (.power hp)) hq) hl⟩
  simp only [List.append_assoc] at h₁ h₂ h₃ ⊢
  rw [h₁, h₂, h₃]

lemma Path.chain {path : List Phrase} (ho : o ≠ .power) (h : l.Path path) (n : Nat) :
    ∃ path', (chain o n l).Path path' ∧ nesting path' = nesting path + n := by
  induction n generalizing l path with
  | zero => exact ⟨path, h, rfl⟩
  | succ n ih =>
    have hb : (Phrase.binary o l (.access "x")).Path (.binary o l (.access "x") :: path) :=
      .step (List.mem_cons_self ..) h
    obtain ⟨path', hp, hn⟩ := ih hb
    refine ⟨path', hp, ?_⟩
    rw [hn, nesting_cons, if_pos (by simpa [isNesting] using ho)]
    omega

lemma Path.chains {path : List Phrase} (h : l.Path path) (n : Nat) :
    ∃ path', (Grammar.chain .add n (Grammar.chain .multiply n l)).Path path' ∧
      nesting path' = nesting path + 2 * n := by
  obtain ⟨path₁, h₁, hn₁⟩ := Path.chain (o := .multiply) nofun h n
  obtain ⟨path₂, h₂, hn₂⟩ := Path.chain (o := .add) nofun h₁ n
  exact ⟨path₂, h₂, by omega⟩

def nested : Nat → List Char
  | 0 => ['f', '(', ')']
  | n + 1 => '(' :: (nested n ++ operands '*' n ++ operands '+' n ++ [')'])

lemma spells_nested (n : Nat) : ∃ p path, Spells .operand (nested n) p n ∧ p.Path path ∧
    nesting path = n ^ 2 + 1 := by
  induction n with
  | zero => exact ⟨_, _, spells_call, .leaf rfl, rfl⟩
  | succ n ih =>
    obtain ⟨p, path, hs, hp, hn⟩ := ih
    obtain ⟨path', hp', hn'⟩ := Path.chains hp n
    have hg := (hs.expression n n).group
    rw [Nat.max_self, Nat.max_self] at hg
    refine ⟨_, _, hg, .step (List.mem_singleton_self _) hp', ?_⟩
    have hsq := square_succ n
    rw [nesting_cons, isNesting, if_pos rfl]
    omega

/-- A text that is read under `n + 1` charges. -/
def deepest (n : Nat) : String :=
  String.ofList (nested n ++ operands '*' n ++ operands '+' n)

lemma Spells.derivable (h : Spells .expression cs p k) :
    Derivable (String.ofList cs) (.evaluate p) k := by
  obtain ⟨ts, place, ht, hd⟩ := h [] {} nofun
  have he := Cursor.tokens_nil place false
  exact ⟨ts, _, by simpa [Cursor.ofText, he] using ht, rfl, .statement (.expression hd)⟩

lemma parse_deepest {n : Nat} (hn : n < limit) : ∃ p path, Phrase.parse (deepest n) = .ok p ∧
    p.Path path ∧ nesting path = (n + 1) ^ 2 := by
  obtain ⟨p, path, hs, hp, hc⟩ := spells_nested n
  obtain ⟨path', hp', hn'⟩ := Path.chains hp n
  refine ⟨_, _, parse_of_derivable (hs.expression n n).derivable (by omega),
    .step (List.mem_singleton_self _) hp', ?_⟩
  have hsq := square_succ n
  rw [nesting_cons, if_neg (by simp [isNesting])]
  omega

/-- In what is read, no path has more such nodes than the square of the limit. There are texts that
need no more than `n + 1` charges and have a path with the square of that number. -/
theorem paths_are_bounded :
    (∀ s p, Phrase.parse s = .ok p ∨ Phrase.parseExpression s = .ok p → p.Within (limit ^ 2)) ∧
      ∀ n < limit, ∃ p path, Phrase.parse (deepest n) = .ok p ∧ p.Path path ∧
        nesting path = (n + 1) ^ 2 := by
  refine ⟨?_, fun n hn => parse_deepest hn⟩
  intro s p h
  obtain ⟨k, hk, hn⟩ := needs_of_read h
  exact hn.within.mono (Nat.pow_le_pow_left hk 2)

end QuantityCalculator.Grammar
