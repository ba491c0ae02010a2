import QuantityCalculator.Proofs.Evaluation.Changes
import QuantityCalculator.Proofs.Session.Atomic
import QuantityCalculator.Proofs.Session.Processed

/-!
Definitions that do not depend on each other. Main statement: in either order they come to the same, and
so does whatever is run after them.
-/

namespace QuantityCalculator

open Eval

namespace Phrase

/-- A line that defines `n`, whether it is shown or excluded. -/
inductive LineBinds : Phrase → String → Phrase → Prop
  | evaluate {p : Phrase} {n e} : p.Binds n e → LineBinds (.evaluate p) n e
  | exclude {p : Phrase} {n e} : p.Binds n e → LineBinds (.exclude p) n e

/-- The name is looked up, as that of a variable or of a function. -/
def Mentions (p : Phrase) (n : String) : Prop :=
  (access n).Occurs p ∨ ∃ as, (call n as).Occurs p

variable {X F : String → Prop} {a env : Environment} {p e : Phrase} {n : String} {k : Nat}

lemma does_evaluate (r : Except Error (Outcome × Change)) :
    (evaluate p).Does k env r ↔ p.Does k env r := by
  unfold Does
  rw [run_evaluate]

lemma does_exclude (r : Except Error (Outcome × Change)) :
    (exclude p).Does k env r ↔ p.Does k env r := by
  unfold Does
  rw [run_exclude]

lemma LineBinds.does (hp : p.LineBinds n e) (he : e.LooksUp X F) (hb : a.BodiesLookUp X F)
    (k : Nat) : ∃ r, (∀ b, a.Agree X F b → p.Does k b r) ∧
      ∀ o c, r = .ok (o, c) → o = .signal .nothing ∧ c.Binds n e := by
  cases hp with
  | evaluate hp =>
    obtain ⟨r, hr, hc⟩ := hp.does he hb k
    exact ⟨r, fun b h => (does_evaluate r).mpr (hr b h), hc⟩
  | exclude hp =>
    obtain ⟨r, hr, hc⟩ := hp.does he hb k
    exact ⟨r, fun b h => (does_exclude r).mpr (hr b h), hc⟩

lemma LineBinds.isExpression (hp : p.LineBinds n e) (hl : p.IsLine) : e.IsExpression := by
  have hs {q : Phrase} (hq : q.Binds n e) (hs : q.IsStatement) : e.IsExpression := by
    cases hq with
    | define =>
      cases hs with
      | expression h => cases h
      | define h => exact h
    | defineFunction =>
      cases hs with
      | expression h => cases h
      | defineFunction h => exact h
  cases hp with
  | evaluate hp =>
    cases hl with
    | evaluate hl => exact hs hp hl
  | exclude hp =>
    cases hl with
    | exclude hl => exact hs hp hl

end Phrase

lemma mapM_eq_map {α β : Type} {f : α → Except Error β} {g : α → β} {l : List α}
    (h : ∀ x ∈ l, f x = .ok (g x)) : l.mapM f = .ok (l.map g) := by
  induction l with
  | nil => rfl
  | cons x l ih =>
    obtain ⟨hx, hl⟩ := List.forall_mem_cons.mp h
    rw [List.mapM_cons, hx, ih hl]
    rfl

lemma size_join_of_perm {ts us : List String} (h : ts.Perm us) :
    (String.join ts).utf8ByteSize = (String.join us).utf8ByteSize := by
  induction h with
  | nil => rfl
  | cons t _ ih => rw [String.join_cons, String.join_cons, String.utf8ByteSize_append,
      String.utf8ByteSize_append, ih]
  | swap t u ts =>
    simp only [String.join_cons, String.utf8ByteSize_append]
    exact Nat.add_left_comm ..
  | trans _ _ ih ih' => exact ih.trans ih'

namespace Ledger

variable {l l' : Ledger} {f : Entry → String}

lemma document_of_lines (h : ∀ e ∈ l.entries, e.line = .ok (f e)) :
    l.document = .ok (header ++ String.join (l.entries.map f) ++ footer) := by
  rw [document, mapM_eq_map h]
  rfl

/-- Entries in another order make a document of the same size. -/
lemma document_of_perm (h : l.entries.Perm l'.entries) (hl : ∀ e ∈ l.entries, e.phrase.IsLine) :
    ∃ t t', l.document = .ok t ∧ l'.document = .ok t' ∧ t.utf8ByteSize = t'.utf8ByteSize := by
  have hf : ∀ e ∈ l.entries, e.line = .ok (e.line.toOption.getD "") := by
    intro e he
    obtain ⟨t, ht⟩ := Entry.line_eq (hl e he)
    rw [ht]
    rfl
  refine ⟨_, _, document_of_lines hf, document_of_lines fun e he => hf e (h.mem_iff.mpr he), ?_⟩
  have hs := size_join_of_perm (h.map fun e => e.line.toOption.getD "")
  simp only [String.utf8ByteSize_append, hs]

end Ledger

/-- Worlds that `R` relates answer alike when texts of one size are stored under one path, and are
related after it: the size may show, but nothing else of a text. -/
def Storage.Blind {σ : Type} [Storage (StateM σ)] (R : σ → σ → Prop) : Prop :=
  ∀ {w w' : σ} (path : String) {text text' : String}, R w w' →
    text.utf8ByteSize = text'.utf8ByteSize →
    ∃ r v v', (Storage.write path text : StateM σ (Except StorageError Unit)) w = (r, v) ∧
      (Storage.write path text' : StateM σ (Except StorageError Unit)) w' = (r, v') ∧ R v v'

namespace Session

variable {σ : Type} [Storage (StateM σ)] {R : σ → σ → Prop} {X F : String → Prop} {s a b : Session}
  {line : String} {p e p' e' : Phrase} {n n' : String} {w w' : σ}
  {r r' : Except Error (Outcome × Change)}

def changeOf : Except Error (Outcome × Change) → Change
  | .ok (_, c) => c
  | .error _ => .nothing

def recorded (p : Phrase) : Except Error Outcome → List Entry
  | .ok o => [⟨p, o⟩]
  | .error _ => []

/-- The session after a phrase that does nothing but its change. -/
def after (s : Session) (p : Phrase) (r : Except Error (Outcome × Change)) : Session :=
  ⟨(changeOf r).apply s.environment, ⟨s.ledger.entries ++ recorded p (r.map Prod.fst)⟩⟩

lemma runLine_of_does (hp : Phrase.parse line = .ok p)
    (hr : p.Does Phrase.callLimit s.environment r) (ho : ∀ o c, r = .ok (o, c) → o.OfStatement)
    (w : σ) : (s.runLine line : StateM σ (Except Error Outcome × Session)) w =
      ((r.map Prod.fst, s.after p r), w) := by
  rw [runLine, hp]
  rcases r with e | ⟨o, c⟩
  · have hr : p.run Phrase.callLimit s.environment = (.error e, s.environment) := hr
    simp only [execute, hr, after, recorded, Except.map, List.append_nil]
    rfl
  · have hr : p.run Phrase.callLimit s.environment = (.ok o, c.apply s.environment) := hr
    obtain ⟨q, rfl⟩ | rfl := ho o c rfl
    · simp only [execute, hr]
      rfl
    · simp only [execute, hr]
      rfl

/-- What a definition comes to, and what it binds, depends on what it looks up alone. -/
lemma runLine_binds (hp : Phrase.parse line = .ok p) (hd : p.LineBinds n e) (he : e.LooksUp X F)
    (hb : s.environment.BodiesLookUp X F) : ∃ r, (changeOf r).Binds n e ∧
      ∀ s' : Session, s.environment.Agree X F s'.environment → ∀ w : σ,
        (s'.runLine line : StateM σ (Except Error Outcome × Session)) w =
          ((r.map Prod.fst, s'.after p r), w) := by
  obtain ⟨r, hr, hc⟩ := hd.does he hb Phrase.callLimit
  refine ⟨r, ?_, fun s' h w => ?_⟩
  · rcases r with err | ⟨o, c⟩
    · exact .nothing
    · exact (hc o c rfl).2
  · exact runLine_of_does hp (hr _ h) (fun o c h => .inr (hc o c h).1) w

/-- The same bindings, and the same entries in whatever order. -/
structure Alike (a b : Session) : Prop where
  environment : a.environment.Agree (fun _ => True) (fun _ => True) b.environment
  entries : a.ledger.entries.Perm b.ledger.entries

lemma Alike.after (h : a.Alike b) (p : Phrase) (r : Except Error (Outcome × Change)) :
    (a.after p r).Alike (b.after p r) :=
  ⟨h.environment.apply _, h.entries.append_right _⟩

lemma alike_of_swap (hr : (changeOf r).Binds n e) (hr' : (changeOf r').Binds n' e') (hn : n ≠ n')
    (s : Session) (p p' : Phrase) : ((s.after p r).after p' r').Alike ((s.after p' r').after p r) := by
  refine ⟨hr.commute hr' hn s.environment, ?_⟩
  simp only [after, List.append_assoc]
  exact List.perm_append_comm.append_left _

lemma Alike.runLine_does (h : a.Alike b) (hp : Phrase.parse line = .ok p)
    (hr : ∀ env, a.environment.Agree (fun _ => True) (fun _ => True) env →
      p.Does Phrase.callLimit env r)
    (ho : ∀ o c, r = .ok (o, c) → o.OfStatement) (hw : R w w') : ∃ x a' b' v v',
      (a.runLine line : StateM σ (Except Error Outcome × Session)) w = ((x, a'), v) ∧
      (b.runLine line : StateM σ (Except Error Outcome × Session)) w' = ((x, b'), v') ∧
      a'.Alike b' ∧ R v v' :=
  ⟨_, _, _, w, w', runLine_of_does hp (hr _ (.refl _)) ho w,
    runLine_of_does hp (hr _ h.environment) ho w', h.after p r, hw⟩

lemma runLine_render {path text : String} {x : Except StorageError Unit} {v : σ}
    (hp : Phrase.parse line = .ok (.render path)) (hd : s.ledger.document = .ok text)
    (hw : (Storage.write path text : StateM σ (Except StorageError Unit)) w = (x, v)) :
    (s.runLine line : StateM σ (Except Error Outcome × Session)) w = match x with
      | .ok _ => ((.ok (.signal (.render path)),
          s.record (.render path) (.signal (.render path))), v)
      | .error e => ((.error (.storage e), s), v) := by
  simp only [runLine, hp, execute, Phrase.run_render, render, hd, bind, StateT.bind, hw]
  rcases x with e | u <;> rfl

lemma Alike.runLine (h : a.Alike b) (ha : a.Regular) (hR : Storage.Blind R) (hw : R w w')
    (line : String) : ∃ x a' b' v v',
      (a.runLine line : StateM σ (Except Error Outcome × Session)) w = ((x, a'), v) ∧
      (b.runLine line : StateM σ (Except Error Outcome × Session)) w' = ((x, b'), v') ∧
      a'.Alike b' ∧ R v v' := by
  rcases hp : Phrase.parse line with e | p
  · refine ⟨.error e, a, b, w, w', ?_, ?_, h, hw⟩ <;> rw [Session.runLine, hp] <;> rfl
  · cases Phrase.isLine_of_parse hp with
    | evaluate hs =>
      obtain ⟨r, hr, ho⟩ := hs.does ha.checked Phrase.callLimit
      exact h.runLine_does hp (fun env he => (Phrase.does_evaluate r).mpr (hr env he)) ho hw
    | exclude hs =>
      obtain ⟨r, hr, ho⟩ := hs.does ha.checked Phrase.callLimit
      exact h.runLine_does hp (fun env he => (Phrase.does_exclude r).mpr (hr env he)) ho hw
    | newline =>
      refine h.runLine_does (r := .ok (.signal .nothing, .nothing)) hp (fun env _ => ?_) ?_ hw
      · exact Phrase.run_newline _
      · rintro o c hr
        cases hr
        exact .inr rfl
    | exit =>
      refine ⟨.ok (.signal .exit), a, b, w, w', ?_, ?_, h, hw⟩ <;>
        simp only [Session.runLine, hp, execute, Phrase.run_exit] <;> rfl
    | quit =>
      refine ⟨.ok (.signal .exit), a, b, w, w', ?_, ?_, h, hw⟩ <;>
        simp only [Session.runLine, hp, execute, Phrase.run_quit] <;> rfl
    | @render path =>
      obtain ⟨t, t', hd, hd', hsize⟩ := Ledger.document_of_perm h.entries ha.isLine
      obtain ⟨x, v, v', hv, hv', hR'⟩ := hR path hw hsize
      have hx := runLine_render hp hd hv
      have hx' := runLine_render hp hd' hv'
      rcases x with e | u
      · exact ⟨_, _, _, v, v', hx, hx', h, hR'⟩
      · exact ⟨_, _, _, v, v', hx, hx', ⟨h.environment, h.entries.append_right _⟩, hR'⟩

lemma Regular.of_runLine {x : Except Error Outcome} {s' : Session} (h : s.Regular)
    (hx : (s.runLine line : StateM σ (Except Error Outcome × Session)) w = ((x, s'), w')) :
    s'.Regular := by
  have hr := h.step line w
  rwa [Session.step, hx] at hr

/-- Whatever is run in sessions that are alike comes to the same. -/
lemma Alike.runThrough (h : a.Alike b) (ha : a.Regular) (hR : Storage.Blind R) (hw : R w w')
    (lines : List String) : (a.runThrough lines w).1.1 = (b.runThrough lines w').1.1 := by
  induction lines generalizing a b w w' with
  | nil => rfl
  | cons line lines ih =>
    obtain ⟨x, a', b', v, v', hx, hx', h', hv⟩ := h.runLine ha hR hw line
    rw [runThrough_cons hx, runThrough_cons hx', ih h' (ha.of_runLine hx) hv]

lemma blind_folder : Storage.Blind fun f g : Folder =>
    ∀ name, (f.files.get? name).isSome = (g.files.get? name).isSome := by
  intro f g path text text' h _
  have he : f.enter = g.enter := by
    funext side name
    rw [Folder.enter, Folder.enter, h name]
  have hl : f.locate path = g.locate path := by
    rw [Folder.locate, Folder.locate, he]
  simp only [Storage.write, Folder.write, hl]
  rcases g.locate path with e | ⟨side | side, name⟩
  · exact ⟨_, f, g, rfl, rfl, h⟩
  · refine ⟨_, _, _, rfl, rfl, fun other => ?_⟩
    rw [Bindings.get?_insert, Bindings.get?_insert]
    split
    · rfl
    · exact h other
  · exact ⟨_, f, g, rfl, rfl, h⟩

lemma looksUp_of_not_mentions {N : String → Prop} (he : e.IsExpression)
    (h : ∀ n, N n → ¬ e.Mentions n) : e.LooksUp (¬ N ·) (¬ N ·) :=
  he.definesNothing.looksUp (fun x hx hn => h x hn (.inl hx)) fun f as hf hn => h f hn (.inr ⟨as, hf⟩)

lemma agree_after (hr : (changeOf r).Binds n e) (hX : ∀ x, X x → x ≠ n) (s : Session) (p : Phrase) :
    s.environment.Agree X X (s.after p r).environment :=
  have h := hr.agree s.environment
  ⟨fun x hx => h.get? x (hX x hx), fun f hf => h.function f (hX f hf)⟩

/-- Two lines that define different names, neither of which is looked up in them or in the body of a
function, come to the same in either order. Their entries stand in that order, what is bound after them
is the same, and so is what any further lines come to. -/
theorem definitions_commute (hR : Storage.Blind R) (h : Reached σ s) {l₁ l₂ : String}
    {p₁ p₂ e₁ e₂ : Phrase} {n₁ n₂ : String} (h₁ : Phrase.parse l₁ = .ok p₁)
    (h₂ : Phrase.parse l₂ = .ok p₂) (hd₁ : p₁.LineBinds n₁ e₁) (hd₂ : p₂.LineBinds n₂ e₂)
    (hn : n₁ ≠ n₂)
    (hfree : ∀ n, n = n₁ ∨ n = n₂ → ¬ e₁.Mentions n ∧ ¬ e₂.Mentions n ∧
      ∀ f u, s.environment.functions.get? f = some (.user u) → ¬ u.body.Mentions n)
    (later : List String) (hw : R w w) :
    ∃ r₁ r₂ rs, (s.runThrough (l₁ :: l₂ :: later) w).1.1 = r₁ :: r₂ :: rs ∧
      (s.runThrough (l₂ :: l₁ :: later) w).1.1 = r₂ :: r₁ :: rs ∧
      ∃ a b, (s.runThrough [l₁, l₂] w).1.2 = a ∧ (s.runThrough [l₂, l₁] w).1.2 = b ∧
        (∀ x, a.environment.get? x = b.environment.get? x) ∧
        (∀ f, a.environment.functions.get? f = b.environment.functions.get? f) ∧
        a.ledger.entries = s.ledger.entries ++ recorded p₁ r₁ ++ recorded p₂ r₂ ∧
        b.ledger.entries = s.ledger.entries ++ recorded p₂ r₂ ++ recorded p₁ r₁ := by
  let N (n : String) : Prop := n = n₁ ∨ n = n₂
  have hs := h.regular
  have he₁ : e₁.LooksUp (¬ N ·) (¬ N ·) :=
    looksUp_of_not_mentions (hd₁.isExpression (Phrase.isLine_of_parse h₁)) fun n hn => (hfree n hn).1
  have he₂ : e₂.LooksUp (¬ N ·) (¬ N ·) :=
    looksUp_of_not_mentions (hd₂.isExpression (Phrase.isLine_of_parse h₂)) fun n hn => (hfree n hn).2.1
  have hb : s.environment.BodiesLookUp (¬ N ·) (¬ N ·) := fun f u hu =>
    looksUp_of_not_mentions (hs.checked f u hu) fun n hn => (hfree n hn).2.2 f u hu
  obtain ⟨r₁, hc₁, hr₁⟩ := runLine_binds (σ := σ) h₁ hd₁ he₁ hb
  obtain ⟨r₂, hc₂, hr₂⟩ := runLine_binds (σ := σ) h₂ hd₂ he₂ hb
  -- Neither definition shows to the other, so that each comes to what it came to in `s`.
  have ha₁ := agree_after hc₁ (X := (¬ N ·)) (fun x hx hn => hx (.inl hn)) s p₁
  have ha₂ := agree_after hc₂ (X := (¬ N ·)) (fun x hx hn => hx (.inr hn)) s p₂
  have h₁₂ (lines : List String) := runThrough_cons (hr₁ s (.refl _) w) (l₂ :: lines)
  have h₂₁ (lines : List String) := runThrough_cons (hr₂ s (.refl _) w) (l₁ :: lines)
  simp only [runThrough_cons (hr₂ _ ha₁ w)] at h₁₂
  simp only [runThrough_cons (hr₁ _ ha₂ w)] at h₂₁
  have hswap := alike_of_swap hc₁ hc₂ hn s p₁ p₂
  have hreg := (hs.of_runLine (hr₁ s (.refl _) w)).of_runLine (hr₂ _ ha₁ w)
  refine ⟨r₁.map Prod.fst, r₂.map Prod.fst, _, congrArg (·.1.1) (h₁₂ later), ?_, _, _,
    congrArg (·.1.2) (h₁₂ []), congrArg (·.1.2) (h₂₁ []), ?_, ?_, rfl, rfl⟩
  · rw [hswap.runThrough hreg hR hw later]
    exact congrArg (·.1.1) (h₂₁ later)
  · exact fun x => hswap.environment.get? x trivial
  · exact fun f => hswap.environment.function f trivial

theorem two_definitions_commute :
    let later := ["x + 1", ":render out"]
    ∃ r₁ r₂ rs, ((start true).runThrough ("x = 2" :: "f(y) = y" :: later) ({} : Folder)).1.1 =
        r₁ :: r₂ :: rs ∧
      ((start true).runThrough ("f(y) = y" :: "x = 2" :: later) ({} : Folder)).1.1 =
        r₂ :: r₁ :: rs := by
  have h₁ : Phrase.parse "x = 2" = .ok (.evaluate (.define "x" (.number "2"))) := by
    with_unfolding_all rfl
  have h₂ : Phrase.parse "f(y) = y" =
      .ok (.evaluate (.defineFunction "f" ["y"] (.access "y"))) := by
    with_unfolding_all rfl
  have hnumber (n : String) : ¬ (Phrase.number "2").Mentions n := by
    rintro (h | ⟨as, h⟩) <;> cases Phrase.occurs_leaf rfl h
  have haccess : ∀ n, n = "x" ∨ n = "f" → ¬ (Phrase.access "y").Mentions n := by
    rintro n hn (h | ⟨as, h⟩) <;> cases Phrase.occurs_leaf rfl h
    simp at hn
  obtain ⟨r₁, r₂, rs, hr, hr', -⟩ := definitions_commute blind_folder (.start true) h₁ h₂
    (.evaluate .define) (.evaluate .defineFunction) (by decide)
    (fun n hn => ⟨hnumber n, haccess n hn, fun f u hu => absurd hu (Environment.get?_builtins_ne f u)⟩)
    ["x + 1", ":render out"] (w := {}) fun _ => rfl
  exact ⟨r₁, r₂, rs, hr, hr'⟩

end Session

end QuantityCalculator
