import QuantityCalculator.Proofs.Scanning.Literals

/-!
Readers that take at least what they are given to take. Main statement: the number that is taken is
the longest leading piece that is a number.
-/

namespace QuantityCalculator

namespace Text.Munch

/-- Of a text that begins with a word of `P` at least that word is taken, and no more before a
character of `S`. -/
def Takes (a : Munch) (P : List Char → Prop) (S : Char → Prop) : Prop :=
  ∀ v t, P v → ∃ u r, a (v ++ t) = some (v ++ u, r) ∧ ((∀ c ∈ t.head?, S c) → u = [])

variable {a b : Munch} {P Q : List Char → Prop} {S T : Char → Prop} {p : Char → Bool}
  {s v w r : List Char}

lemma optional_of_none (h : a s = none) : optional a s = some ([], s) := by
  rw [optional, h]
  rfl

lemma optional_of_some (h : a s = some (w, r)) : optional a s = some (w, r) := by
  rw [optional, h]
  rfl

lemma followedBy_of_none (h : a s = none) : a.followedBy b s = none := by
  rw [followedBy, h]

lemma followedBy_of_some {u q : List Char} (ha : a s = some (w, r)) (hb : b r = some (u, q)) :
    a.followedBy b s = some (w ++ u, q) := by
  simp [followedBy, ha, hb]

lemma one_of_head (h : ∀ c ∈ s.head?, p c = false) : one p s = none := by
  rcases s with _ | ⟨c, s⟩
  · rfl
  · rw [one, if_neg (by simp [h c rfl])]

lemma takes_one : Takes (one p) (fun v => ∃ c, p c ∧ v = [c]) (fun _ => True) := by
  rintro _ t ⟨c, hc, rfl⟩
  exact ⟨[], t, if_pos hc, fun _ => rfl⟩

lemma takes_run : Takes (run p) (fun v => v ≠ [] ∧ ∀ c ∈ v, p c) (fun c => p c = false) := by
  rintro v t ⟨hn, hv⟩
  obtain ⟨c, v, rfl⟩ := List.exists_cons_of_ne_nil hn
  have hr := run_cons (hv c List.mem_cons_self) (v ++ t)
  rw [← List.cons_append, List.takeWhile_append_of_pos hv] at hr
  refine ⟨_, _, hr, fun h => ?_⟩
  rcases t with _ | ⟨d, t⟩
  · rfl
  · exact List.takeWhile_cons_of_neg (by simp [h d rfl])

lemma Takes.mono (h : Takes a P S) (hp : ∀ v, Q v → P v) (hs : ∀ c, T c → S c) : Takes a Q T := by
  intro v t hv
  obtain ⟨u, r, ha, hu⟩ := h v t (hp v hv)
  exact ⟨u, r, ha, fun ht => hu fun c hc => hs c (ht c hc)⟩

lemma Takes.present (h : Takes a P S) : Takes (optional a) P S := by
  intro v t hv
  obtain ⟨u, r, ha, hu⟩ := h v t hv
  exact ⟨u, r, optional_of_some ha, hu⟩

lemma Takes.exact (h : Takes a P S) (hs : Splits a) (hp : P v) (ht : ∀ c ∈ s.head?, S c) :
    a (v ++ s) = some (v, s) := by
  obtain ⟨u, r, ha, hu⟩ := h v s hp
  obtain rfl := hu ht
  obtain rfl : r = s := by simpa using hs _ _ _ ha
  simpa using ha

lemma Takes.optional (h : Takes a P S) (hn : ∀ s, (∀ c ∈ s.head?, T c) → a s = none) :
    Takes (optional a) (fun v => v = [] ∨ P v) (fun c => S c ∧ T c) := by
  rintro v t (rfl | hv)
  · rcases ha : a t with _ | ⟨w, r⟩
    · exact ⟨[], t, optional_of_none ha, fun _ => rfl⟩
    · refine ⟨w, r, optional_of_some ha, fun ht => ?_⟩
      rw [hn t fun c hc => (ht c hc).2] at ha
      contradiction
  · obtain ⟨u, r, ha, hu⟩ := h.present v t hv
    exact ⟨u, r, ha, fun ht => hu fun c hc => (ht c hc).1⟩

/-- What stands second stops the first reader. It can only be empty if it need not be there. -/
lemma Takes.followedBy (ha : Takes a P S) (hs : Splits a) (hb : Takes b Q T)
    (hq : ∀ v, Q v → ∀ c ∈ v.head?, S c) (hn : Q [] → ∀ s, (b s).isSome) :
    Takes (a.followedBy b) (fun w => ∃ u v, P u ∧ Q v ∧ w = u ++ v)
      (fun c => (Q [] → S c) ∧ T c) := by
  rintro _ t ⟨u, v, hu, hv, rfl⟩
  rw [List.append_assoc]
  obtain ⟨x, r, hx, hx'⟩ := ha u (v ++ t) hu
  rcases v with _ | ⟨c, v⟩
  · obtain ⟨⟨y, q⟩, hy⟩ := Option.isSome_iff_exists.mp (hn hv r)
    refine ⟨x ++ y, q, by simpa using followedBy_of_some hx hy, fun ht => ?_⟩
    obtain rfl := hx' fun c hc => (ht c hc).1 hv
    obtain ⟨z, q', hz, hz'⟩ := hb [] t hv
    obtain rfl : r = t := by simpa using hs _ _ _ hx
    have he := hz' fun c hc => (ht c hc).2
    simp_all
  · obtain rfl := hx' fun d hd => hq _ hv d hd
    obtain ⟨y, q, hy, hy'⟩ := hb (c :: v) t hv
    obtain rfl : r = c :: v ++ t := by simpa using hs _ _ _ hx
    refine ⟨y, q, by simpa using followedBy_of_some hx hy, fun ht => hy' fun d hd => (ht d hd).2⟩

end Text.Munch

namespace Numeral

open Text Munch Lexeme

lemma takes_digits : Takes digits Digits (fun c => c.isDigit = false) :=
  takes_run

lemma Digits.head {ds : List Char} (h : Digits ds) : ∀ c ∈ ds.head?, c.isDigit := by
  intro c hc
  exact h.2 c (List.mem_of_mem_head? hc)

lemma takes_fraction :
    Takes (optional fraction) Fraction (fun c => c.isDigit = false ∧ c ≠ '.') := by
  have hf := takes_one.followedBy (splits_one (· = '.')) takes_digits (fun _ _ _ _ => trivial)
    (fun h => absurd rfl h.1)
  refine (hf.optional (T := (· ≠ '.')) ?_).mono ?_ ?_
  · exact fun s hs => followedBy_of_none (one_of_head (by simpa using hs))
  · rintro _ (_ | hd)
    · exact .inl rfl
    · exact .inr ⟨['.'], _, ⟨'.', rfl, rfl⟩, hd, rfl⟩
  · exact fun c hc => ⟨⟨fun _ => trivial, hc.1⟩, hc.2⟩

lemma takes_sign :
    Takes (optional sign) (fun v => v = [] ∨ v = ['+'] ∨ v = ['-']) (fun c => c.isDigit) := by
  refine (takes_one.optional (T := (·.isDigit)) ?_).mono ?_ ?_
  · intro s hs
    refine one_of_head fun c hc => ?_
    have hd := hs c hc
    by_contra hn
    obtain rfl | rfl : c = '+' ∨ c = '-' := by simpa [or_iff_not_imp_left] using hn
    · contradiction
    · contradiction
  · rintro v (rfl | rfl | rfl)
    · exact .inl rfl
    · exact .inr ⟨'+', rfl, rfl⟩
    · exact .inr ⟨'-', rfl, rfl⟩
  · exact fun c hc => ⟨trivial, hc⟩

lemma takes_power :
    Takes (optional power) Power (fun c => c.isDigit = false ∧ c ≠ 'e' ∧ c ≠ 'E') := by
  have hs := (takes_one (p := fun c => c = 'e' || c = 'E')).followedBy (splits_one _) takes_sign
    (fun _ _ _ _ => trivial) (fun _ _ => rfl)
  have hp := hs.followedBy ((splits_one _).followedBy (splits_one _).optional) takes_digits
    (fun v hv c hc => ⟨fun _ => trivial, hv.head c hc⟩) (fun h => absurd rfl h.1)
  refine (hp.optional (T := fun c => c ≠ 'e' ∧ c ≠ 'E') ?_).mono ?_ ?_
  · exact fun s hs => followedBy_of_none (followedBy_of_none (one_of_head (by simpa using hs)))
  · rintro _ (_ | ⟨hc, hs, hd⟩)
    · exact .inl rfl
    · exact .inr ⟨_, _, ⟨_, _, ⟨_, by simpa using hc, rfl⟩, hs, rfl⟩, hd, rfl⟩
  · exact fun c hc => ⟨⟨fun h => absurd rfl h.1, hc.1⟩, hc.2⟩

lemma Fraction.head {fs : List Char} (h : Fraction fs) : ∀ c ∈ fs.head?, c.isDigit = false := by
  cases h with
  | none => simp
  | digits => simp

lemma takes_number : Takes number Literal
    (fun c => c.isDigit = false ∧ c ≠ '.' ∧ c ≠ 'e' ∧ c ≠ 'E') := by
  have hf := takes_digits.followedBy splits_digits takes_fraction (fun _ h => h.head)
    (fun _ _ => rfl)
  have hp := hf.followedBy (splits_digits.followedBy splits_fraction.optional) takes_power
    (fun _ h c hc => by simp [h.head c hc]) (fun _ _ => rfl)
  refine hp.mono ?_ ?_
  · rintro _ ⟨hd, hf, hp⟩
    exact ⟨_, _, ⟨_, _, hd, hf, rfl⟩, hp, rfl⟩
  · rintro c ⟨hd, hc, he⟩
    exact ⟨fun _ => ⟨fun _ => hd, hd, hc⟩, hd, he⟩

/-- No longer leading piece is a number. -/
lemma longest {s w r : List Char} (h : number s = some (w, r)) :
    ∀ v, v <+: s → Literal v → v.length ≤ w.length := by
  rintro v ⟨t, rfl⟩ hv
  obtain ⟨u, q, hu, -⟩ := takes_number v t hv
  obtain ⟨rfl, -⟩ := by simpa [hu] using h
  rw [List.length_append]
  exact Nat.le_add_right _ _

end Numeral

end QuantityCalculator
