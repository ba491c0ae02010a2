import QuantityCalculator.Proofs.Session.Recorded
import QuantityCalculator.Proofs.Typesetting.Inert

/-!
The document of a session. Main statement: between its first and its last line there is one row for
each entry that is shown, in the order of the ledger, and later lines add rows after those.
-/

namespace QuantityCalculator

open Text

namespace Text

/-- A text has a word in exactly one place. -/
def Once (w t : String) : Prop :=
  ∃! p : String × String, t = p.1 ++ w ++ p.2

lemma takeWhile_ne_append {a s : List Char} {c : Char} (h : c ∉ a) :
    (a ++ c :: s).takeWhile (· ≠ c) = a := by
  rw [List.takeWhile_append_of_pos, List.takeWhile_cons_of_neg (by simp), List.append_nil]
  intro d hd
  have hne : d ≠ c := by
    rintro rfl
    exact h hd
  simpa using hne

lemma once_equation {l r : String} (hl : '&' ∉ l.toList) (hr : '&' ∉ r.toList) :
    Once "&=&" (equation l r) := by
  have ht : (equation l r).toList = (l.toList ++ [' ']) ++ '&' :: '=' :: '&' :: ' ' :: r.toList := by
    simp [equation]
  refine ⟨(l ++ " ", " " ++ r), ?_, ?_⟩
  · apply String.toList_inj.mp
    simp [ht]
  · rintro ⟨a, b⟩ h
    have hab : (l.toList ++ [' ']) ++ '&' :: '=' :: '&' :: ' ' :: r.toList =
        a.toList ++ '&' :: '=' :: '&' :: b.toList := by
      simpa [h] using ht.symm
    have ha : '&' ∉ a.toList := by
      have hc := congrArg (List.count '&') hab
      simp [List.count_eq_zero_of_not_mem hl, List.count_eq_zero_of_not_mem hr] at hc
      rw [← List.count_eq_zero]
      omega
    have hp : a.toList = l.toList ++ [' '] := by
      rw [← takeWhile_ne_append ha, ← hab, takeWhile_ne_append (by simpa using hl)]
    have hs : b.toList = ' ' :: r.toList := by simpa [hp] using hab.symm
    rw [Prod.mk.injEq, ← String.toList_inj, ← String.toList_inj]
    simp [hp, hs]

end Text

namespace Phrase

inductive IsDefinition : Phrase → Prop
  | define {x p} : IsDefinition (.define x p)
  | defineFunction {f xs p} : IsDefinition (.defineFunction f xs p)

variable {p : Phrase}

lemma IsExpression.row_text (h : p.IsExpression) (hw : p.Proper) :
    ∃ t, p.row = .ok (.math t) ∧ Inert t.toList ∧ ((∀ fs, p ≠ .unit fs) → t ≠ "") := by
  obtain ⟨t, ht, hi⟩ := h.inert_row
  obtain ⟨u, hu, hn⟩ := h.row_ne_empty
  obtain rfl : t = u := by simpa [ht] using hu
  exact ⟨t, ht, hi hw, hn hw⟩

end Phrase

namespace Entry

def isShown (e : Entry) : Bool :=
  match e.phrase with
  | .exclude _ | .render _ => false
  | _ => true

/-- What the row of an entry says. -/
inductive Shows : Entry → String → Prop
  | newline : Shows ⟨.newline, .signal .nothing⟩ "\\\\"
  | definition {p t} : p.IsDefinition → p.row = .ok (.math t) → Once "&=&" t →
      Shows ⟨.evaluate p, .signal .nothing⟩ t
  | value {p q t} : p.IsExpression → p.row = .ok (.math t) → '&' ∉ t.toList →
      Once "&=&" (equation t q.latex) → Shows ⟨.evaluate p, .value q⟩ (equation t q.latex)

variable {e : Entry}

lemma line_of_math {p : Phrase} {o : Outcome} {t : String} (hp : p.row = .ok (.math t)) (ht : t ≠ "") :
    line ⟨p, o⟩ = .ok ((match o.quantity? with
      | some q => equation t q.latex
      | none => t) ++ "\\\\\n") := by
  simp only [line, hp, bind, Except.bind, if_neg ht]
  cases o <;> rfl

lemma Shows.of_definition {p : Phrase} {l r : String} (hd : p.IsDefinition)
    (hp : p.row = .ok (.math (equation l r))) (hl : Inert l.toList) (hr : Inert r.toList) :
    Shows ⟨.evaluate p, .signal .nothing⟩ (equation l r) :=
  .definition hd hp (once_equation (fun h => (hl _ h).1 rfl) fun h => (hr _ h).1 rfl)

lemma not_mem_equation {l r : String} (hl : Inert l.toList) (hr : Inert r.toList) :
    '\n' ∉ (equation l r).toList := by
  have hl : '\n' ∉ l.toList := fun h => (hl _ h).2 rfl
  have hr : '\n' ∉ r.toList := fun h => (hr _ h).2 rfl
  simp [equation, hl, hr]

lemma Recorded.line_of_shown (h : e.Recorded) (hs : e.isShown) :
    ∃ t, e.line = .ok (t ++ "\\\\\n") ∧ e.Shows t ∧ '\n' ∉ t.toList := by
  obtain ⟨p, o⟩ := e
  obtain ⟨⟨line, hp⟩, hc, hx⟩ := h
  have hw := Phrase.proper_of_parse hp
  cases hc with
  | @evaluate p _ hc =>
    have hu : ∀ fs, p ≠ .unit fs := hw _ .self
    have hv : p.Proper := hw.child (by simp [Phrase.children])
    cases hc with
    | @value _ q he =>
      obtain ⟨t, ht, hi, hn⟩ := he.row_text hv
      refine ⟨equation t q.latex, line_of_math ht (hn hu), ?_, not_mem_equation hi q.inert_latex⟩
      have hm : '&' ∉ t.toList := fun h => (hi _ h).1 rfl
      exact .value he ht hm (once_equation hm fun h => (q.inert_latex _ h).1 rfl)
    | @define x _ he =>
      have hx : IsName x.toList := hv _ .self
      obtain ⟨t, ht, hi, -⟩ := he.row_text (hv.child (by simp [Phrase.children]))
      have hr := Phrase.row_define x ht
      have hl := inert_of_isWord hx.2
      exact ⟨equation x t, line_of_math hr (by simp [equation]), .of_definition .define hr hl hi,
        not_mem_equation hl hi⟩
    | @defineFunction f xs _ he =>
      obtain ⟨hf, hxs⟩ : IsName f.toList ∧ ∀ x ∈ xs, IsName x.toList := hv _ .self
      obtain ⟨t, ht, hi, -⟩ := he.row_text (hv.child (by simp [Phrase.children]))
      have hr := Phrase.row_defineFunction f xs ht
      have hl := Phrase.inert_application (inert_of_isWord hf.2) fun x hx =>
        inert_of_isWord (hxs x hx).2
      exact ⟨_, line_of_math hr (by simp [equation]), .of_definition .defineFunction hr hl hi,
        not_mem_equation hl hi⟩
  | newline => exact ⟨"\\\\", rfl, .newline, by simp⟩
  | exclude | render => cases hs
  | exit | quit => exact absurd rfl hx

lemma line_of_not_shown (h : e.isShown = false) : e.line = .ok "" := by
  obtain ⟨p, o⟩ := e
  cases p <;> cases h <;> rfl

end Entry

namespace Ledger

def page (rows : List String) : String :=
  header ++ String.join (rows.map (· ++ "\\\\\n")) ++ footer

variable {l l' : Ledger} {es fs : List Entry} {rows more : List String}

lemma document_eq_map (l : Ledger) :
    l.document = (header ++ · ++ footer) <$> (String.join <$> l.entries.mapM Entry.line) := by
  rw [document]
  rcases l.entries.mapM Entry.line with e | ls <;> rfl

lemma join_lines_cons (e : Entry) (es : List Entry) :
    String.join <$> (e :: es).mapM Entry.line =
      e.line >>= fun t => (t ++ ·) <$> (String.join <$> es.mapM Entry.line) := by
  rw [List.mapM_cons]
  rcases e.line with x | t
  · rfl
  · rcases es.mapM Entry.line with x | ls
    · rfl
    · exact congrArg Except.ok String.join_cons

lemma join_lines_shown (es : List Entry) :
    String.join <$> es.mapM Entry.line = String.join <$> (es.filter Entry.isShown).mapM Entry.line := by
  induction es with
  | nil => rfl
  | cons e es ih =>
    by_cases hs : e.isShown
    · rw [List.filter_cons_of_pos hs, join_lines_cons, join_lines_cons, ih]
    · rw [List.filter_cons_of_neg hs, join_lines_cons, Entry.line_of_not_shown (by simpa using hs), ih]
      rcases (es.filter Entry.isShown).mapM Entry.line with x | ls
      · rfl
      · exact congrArg Except.ok String.empty_append

lemma document_congr (h : l.entries.filter Entry.isShown = l'.entries.filter Entry.isShown) :
    l.document = l'.document := by
  rw [document_eq_map, document_eq_map, join_lines_shown, h, ← join_lines_shown]

structure Rows (es : List Entry) (rows : List String) : Prop where
  lines : (es.filter Entry.isShown).mapM Entry.line = .ok (rows.map (· ++ "\\\\\n"))
  shows : List.Forall₂ (fun e t => e.Shows t ∧ '\n' ∉ t.toList) (es.filter Entry.isShown) rows

lemma rows_of_recorded (h : ∀ e ∈ es, e.Recorded) : ∃ rows, Rows es rows := by
  induction es with
  | nil => exact ⟨[], rfl, .nil⟩
  | cons e es ih =>
    obtain ⟨he, hes⟩ := List.forall_mem_cons.mp h
    obtain ⟨rows, hl, hr⟩ := ih hes
    by_cases hs : e.isShown
    · obtain ⟨t, ht, hn⟩ := he.line_of_shown hs
      refine ⟨t :: rows, ?_, ?_⟩
      · rw [List.filter_cons_of_pos hs, List.mapM_cons, ht, hl]
        rfl
      · rw [List.filter_cons_of_pos hs]
        exact .cons hn hr
    · refine ⟨rows, ?_, ?_⟩ <;> rwa [List.filter_cons_of_neg hs]

lemma Rows.append (h : Rows es rows) (h' : Rows fs more) : Rows (es ++ fs) (rows ++ more) := by
  refine ⟨?_, ?_⟩
  · rw [List.filter_append, List.mapM_append, h.lines, h'.lines, List.map_append]
    rfl
  · rw [List.filter_append]
    exact List.rel_append h.shows h'.shows

lemma Rows.document (h : Rows l.entries rows) : l.document = .ok (page rows) := by
  rw [document_eq_map, join_lines_shown, h.lines]
  rfl

end Ledger

namespace Session

variable {σ : Type} [Storage (StateM σ)] {s : Session}

/-- The document of a session that lines lead to has one row for each entry that is not a line to render
or to exclude, in their order. No row breaks but at its end. Further lines add rows after these, and the
entries without a row could as well be any others. -/
theorem document_structure (h : Reached σ s) :
    (∃ rows, s.ledger.document = .ok (Ledger.page rows) ∧
      List.Forall₂ (fun e t => e.Shows t ∧ '\n' ∉ t.toList)
        (s.ledger.entries.filter Entry.isShown) rows ∧
      ∀ lines : List (String × σ), ∃ more,
        (s.runLines lines).2.ledger.document = .ok (Ledger.page (rows ++ more))) ∧
    ∀ l : Ledger, l.entries.filter Entry.isShown = s.ledger.entries.filter Entry.isShown →
      l.document = s.ledger.document := by
  obtain ⟨rows, hr⟩ := Ledger.rows_of_recorded h.recorded
  refine ⟨⟨rows, hr.document, hr.shows, fun lines => ?_⟩, fun l hl => Ledger.document_congr hl⟩
  obtain ⟨es, he⟩ := h.entries_runLines lines
  have hes : ∀ e ∈ es, e.Recorded := by
    have hs := (h.runLines lines).recorded
    rw [he, List.forall_mem_append] at hs
    exact hs.2
  obtain ⟨more, hm⟩ := Ledger.rows_of_recorded hes
  refine ⟨more, Ledger.Rows.document ?_⟩
  rw [he]
  exact hr.append hm

theorem three_rows_of_four_lines :
    let s := ((start false).runLines
      [(":newline", ({} : Folder)), (":exclude f(x) = x", {}), ("g(x) = x", {}),
        ("g(3 m) + 2 m", {})]).2
    let shown := s.ledger.entries.filter Entry.isShown
    Reached Folder s ∧ s.ledger.entries.length = 4 ∧
      shown.map (·.outcome.quantity?) = [none, none, some ⟨5, { metre := 1 }⟩] ∧
      ∃ rows, s.ledger.document = .ok (Ledger.page rows) ∧
        List.Forall₂ (fun e t => e.Shows t ∧ '\n' ∉ t.toList) shown rows ∧ rows.length = 3 := by
  intro s shown
  have h : Reached Folder s := (Reached.start false).runLines _
  obtain ⟨rows, hd, hr, -⟩ := (document_structure h).1
  have hs : shown.length = 3 := by decide +kernel
  exact ⟨h, by decide +kernel, by decide +kernel, rows, hd, hr, hr.length_eq ▸ hs⟩

end Session

end QuantityCalculator
