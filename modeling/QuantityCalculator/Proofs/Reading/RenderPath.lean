import QuantityCalculator.Proofs.Scanning.Blanks
import QuantityCalculator.Proofs.Scanning.Marks

/-!
The path that a document goes to. Main statement: it is all that stands after the word, without the
blanks around it, whatever its tokens would be.
-/

namespace QuantityCalculator

open Text Parse Grammar

variable {a b r src : List Char} {t u : Token} {ts : List Token} {n : Nat} {path : String}

lemma Lexeme.ofChars_render (h : ∀ c ∈ r.head?, isWord c = false) :
    ofChars false ("render".toList ++ r) = verbatim .name "render".toList r := by
  obtain ⟨ht, hd⟩ := span_append (w := "render".toList) (List.all_eq_true.mp (by decide)) h
  change verbatim .name (("render".toList ++ r).takeWhile isWord)
    (("render".toList ++ r).dropWhile isWord) = _
  rw [ht, hd]

namespace Cursor

/-- The first two tokens say to render; the cursor behind them has all of the rest before it. -/
lemma tokens_of_render {s : String} (ha : Blank a) (hb : Blank b) (hn : b ≠ [])
    (hs : s.toList = a ++ ':' :: ("render".toList ++ (b ++ r))) :
    ∃ t u c, (ofText s).tokens = t :: u :: tokens c ∧ Keyword t u "render" ∧
      c.Within s.toList ∧ c.rest = b ++ r := by
  have hg : splitBlanks false (ofText s).rest = (a, ':' :: ("render".toList ++ (b ++ r))) := by
    change splitBlanks false s.toList = _
    rw [hs, splitBlanks_append_of_blank ha, splitBlanks_of_head (by simp; decide), List.append_nil]
  have hl : (ofText s).lexeme = Lexeme.verbatim .colon [':'] ("render".toList ++ (b ++ r)) := by
    rw [lexeme, hg]
    rfl
  have ha' : (ofText s).advance.rest = "render".toList ++ (b ++ r) ∧
      (ofText s).advance.afterNumber = false := by
    rw [advance, hl]
    exact ⟨rfl, rfl⟩
  have hg' : splitBlanks false (ofText s).advance.rest = ([], "render".toList ++ (b ++ r)) := by
    rw [ha'.1]
    exact splitBlanks_of_head (by simp; decide)
  have hl' : (ofText s).advance.lexeme = Lexeme.verbatim .name "render".toList (b ++ r) := by
    obtain ⟨d, b, rfl⟩ := List.exists_cons_of_ne_nil hn
    rw [lexeme, hg', ha'.2]
    refine Lexeme.ofChars_render ?_
    rintro _ ⟨⟩
    exact isWord_of_isBlank (hb d List.mem_cons_self)
  have hw : (ofText s).Within s.toList := ⟨Nat.zero_le _, rfl⟩
  refine ⟨(ofText s).token, (ofText s).advance.token, (ofText s).advance.advance, ?_, ?_,
    hw.lexeme.2.2.lexeme.2.2, ?_⟩
  · rw [tokens_of_ne_nil (by simp [hg]), tokens_of_ne_nil (by simp [hg'])]
  · rw [token, token, hl, hl']
    exact ⟨rfl, rfl, rfl⟩
  · rw [advance, hl']
    rfl

end Cursor

namespace Parse

lemma command_of_render (h : Keyword t u "render") :
    command ⟨src, t :: u :: ts, n⟩ = renderPath ⟨src, ts, n⟩ := by
  obtain ⟨ht, hu, hw⟩ := h
  refine (bind_of_ok (expect_cons ht)).trans ((bind_of_ok (expect_cons hu)).trans ?_)
  simp only [hw]

lemma line_of_path (h : Keyword t u "render") (hp : path ≠ "")
    (hr : remainder src (Parser.current ⟨src, ts, n⟩).place.position = path) :
    (line ⟨src, t :: u :: ts, n⟩).1 = .ok (.render path) := by
  have hc : command ⟨src, t :: u :: ts, n⟩ = (.ok (.render path), ⟨src, [], n⟩) := by
    rw [command_of_render h, renderPath, get_bind]
    simp only [hr, if_neg hp]
    rfl
  rw [line, currentKind_bind, if_pos (by exact h.1), bind_of_ok hc]
  rfl

lemma line_of_no_path (h : Keyword t u "render")
    (hr : remainder src (Parser.current ⟨src, ts, n⟩).place.position = "") :
    (line ⟨src, t :: u :: ts, n⟩).1 = .error (.parse .missingPath) := by
  have hc : command ⟨src, t :: u :: ts, n⟩ = (.error (.parse .missingPath), ⟨src, ts, n⟩) := by
    rw [command_of_render h, renderPath, get_bind]
    simp only [hr, if_pos]
    rfl
  rw [line, currentKind_bind, if_pos (by exact h.1), bind_of_error hc]

end Parse

namespace Phrase

/-- Whatever stands after the word is the path, up to the blanks around it. -/
theorem parse_render {a b p c : String} (ha : Blank a.toList) (hb : Blank b.toList) (hn : b ≠ "")
    (hp : Trimmed p.toList) (hh : p.toList.head? ≠ some '#') (hc : Blank c.toList) :
    (p ≠ "" → parse (a ++ ":render" ++ b ++ p ++ c) = .ok (.render p)) ∧
    (p = "" → parse (a ++ ":render" ++ b ++ p ++ c) = .error (.parse .missingPath)) ∧
    (Error.parse .missingPath).message = "Parse error: render requires an output path" := by
  have hs : (a ++ ":render" ++ b ++ p ++ c).toList =
      a.toList ++ ':' :: ("render".toList ++ (b.toList ++ (p.toList ++ c.toList))) := by
    simp
  obtain ⟨t, u, k, ht, hk, hw, hr⟩ := Cursor.tokens_of_render ha hb (by simpa using hn) hs
  obtain ⟨-, -, -, hd⟩ := hw.gap
  have hl : remainder (a ++ ":render" ++ b ++ p ++ c).toList k.tokenPlace.position = p := by
    rw [remainder, hd, hr, trim_splitBlanks hb hp hh hc, String.ofList_toList]
  have hl : remainder (a ++ ":render" ++ b ++ p ++ c).toList
      (Parser.current ⟨(a ++ ":render" ++ b ++ p ++ c).toList, k.tokens, 0⟩).place.position = p := by
    rwa [Parser.current, Cursor.headD_tokens]
  rw [parse, Parser.ofText, ht]
  exact ⟨fun h => line_of_path hk h hl, fun h => line_of_no_path hk (h ▸ hl), rfl⟩

theorem parse_render_with_quote :
    Blank " \n".toList ∧ Blank "\t".toList ∧ "\t" ≠ "" ∧ Trimmed "1.5 m\x27\x7b # :x\ny".toList ∧
    "1.5 m\x27\x7b # :x\ny".toList.head? ≠ some '#' ∧ Blank " ".toList ∧
    parse (" \n" ++ ":render" ++ "\t" ++ "1.5 m\x27\x7b # :x\ny" ++ " ") =
      .ok (.render "1.5 m\x27\x7b # :x\ny") := by
  have ha : Blank " \n".toList := by decide
  have hb : Blank "\t".toList := by decide
  have hp : Trimmed "1.5 m\x27\x7b # :x\ny".toList := by decide
  have hh : "1.5 m\x27\x7b # :x\ny".toList.head? ≠ some '#' := by decide
  have hc : Blank " ".toList := by decide
  exact ⟨ha, hb, by decide, hp, hh, hc, (parse_render ha hb (by decide) hp hh hc).1 (by decide)⟩

end Phrase

end QuantityCalculator
