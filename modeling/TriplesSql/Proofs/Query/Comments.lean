import TriplesSql.Proofs.Query.Terminators
import TriplesSql.Proofs.Select.Rests

/-!
# Comments in front of a closing parenthesis

Unread query text is written between parentheses. If its last line has two hyphens, the closing
parenthesis stands on a line of its own, so no comment that they begin reaches it. A number sign, at
which comments begin in one dialect, is not looked for, and a comment of this kind on the last line
takes the parenthesis in.
-/

namespace TriplesSql

namespace Select

variable {d : Dialect} {c : Char} {cs rest mark : List Char}

def lineCommentMarks : Dialect → List (List Char)
  | .mysql => [['-', '-'], ['#']]
  | _ => [['-', '-']]

theorem mem_lineCommentMarks_iff :
    mark ∈ lineCommentMarks d ↔ mark = ['-', '-'] ∨ d = .mysql ∧ mark = ['#'] := by
  cases d <;> simp [lineCommentMarks]

/-- The end of a text stands in a line comment that begins in it: the reading of the text comes to a
mark, which is then no part of a string, a name or another comment, and no line ends behind it. -/
def EndsInLineComment (d : Dialect) (cs : List Char) : Prop :=
  ∃ rest, Reaches d cs rest ∧ (∃ mark ∈ lineCommentMarks d, mark <+: rest) ∧ '\n' ∉ rest

theorem announcedString_parenthesis (cs : List Char) : announcedString .mysql '(' cs = none := by
  have hnone : cs.head?.bind (announced? .mysql '(') = none := by
    cases cs <;> simp [announced?]
  unfold announcedString
  rw [hnone]
  split <;> simp_all

theorem step_parenthesis (cs : List Char) :
    step .mysql '(' cs = some (some (.symbol "("), cs) := by
  have hword : startsWord .mysql '(' = false := by decide
  have hblank : Text.isBlank '(' = false := by decide
  simp only [step, announcedString_parenthesis, hword, hblank]
  rfl

theorem reaches_parenthesis_iff (hc : c ≠ '(') :
    Reaches .mysql ('(' :: cs) (c :: rest) ↔ Reaches .mysql cs (c :: rest) := by
  constructor
  · intro h
    cases h with
    | here => exact absurd rfl hc
    | step hstep hlast =>
      rw [step_parenthesis] at hstep
      cases hstep
      exact hlast
  · exact .step (step_parenthesis cs)

end Select

namespace Terminator

open Select

variable {sql : String} {line cs mark : List Char}

theorem hasCommentMark_iff : hasCommentMark cs = true ↔ ['-', '-'] <:+: cs := by
  fun_induction hasCommentMark cs with
  | case1 cs => exact iff_of_true rfl ⟨[], cs, rfl⟩
  | case2 c cs hmark ih =>
    have hfront : ¬ ['-', '-'] <+: c :: cs := by
      rintro ⟨rest, heq⟩
      exact hmark rest (List.cons.inj heq).1.symm (List.cons.inj heq).2.symm
    rw [ih, List.infix_cons_iff, or_iff_right hfront]
  | case3 => simp

theorem suffix_lastLine (h : line <:+ cs) (hline : '\n' ∉ line) : line <:+ lastLine cs := by
  obtain ⟨front, rfl⟩ := h
  have hinside : ∀ c ∈ line.reverse, (c != '\n') = true := by
    intro c hc
    rw [bne_iff_ne]
    rintro rfl
    exact hline (List.mem_reverse.mp hc)
  rw [lastLine, List.reverse_append, List.takeWhile_append_of_pos hinside, List.reverse_append,
    List.reverse_reverse]
  exact List.suffix_append _ line

theorem toList_nested_of_comment (hguard : endsInLineComment sql = true) :
    (nested sql).toList = (strip sql).toList ++ ['\n'] := by
  rw [nested, if_pos hguard, String.toList_append]
  rfl

theorem toList_nested_of_no_comment (hguard : endsInLineComment sql = false) :
    (nested sql).toList = (strip sql).toList := by
  rw [nested, hguard, if_neg Bool.false_ne_true, String.append_empty]

theorem eq_nil_of_suffix_nested (hguard : endsInLineComment sql = true)
    (h : line <:+ '(' :: (nested sql).toList) (hline : '\n' ∉ line) : line = [] := by
  rw [toList_nested_of_comment hguard, ← List.cons_append, List.suffix_concat_iff] at h
  rcases h with h | ⟨front, rfl, -⟩
  · exact h
  · exact absurd (List.mem_append_right front List.mem_cons_self) hline

theorem not_infix_line (h : line <:+ '(' :: (nested sql).toList) (hline : '\n' ∉ line) :
    ¬ ['-', '-'] <:+: line := by
  cases hguard : endsInLineComment sql with
  | true =>
    rw [eq_nil_of_suffix_nested hguard h hline]
    simp
  | false =>
    have hlast : ¬ ['-', '-'] <:+: lastLine (strip sql).toList := by
      rw [← hasCommentMark_iff]
      exact Bool.eq_false_iff.mp hguard
    rw [toList_nested_of_no_comment hguard, List.suffix_cons_iff] at h
    rcases h with rfl | h
    · -- the whole text is one line, and the parenthesis in front is no hyphen
      have hsame := suffix_lastLine List.suffix_rfl (mt (List.mem_cons_of_mem '(') hline)
      rw [List.infix_cons_iff]
      rintro (hfront | hinside)
      · exact absurd (List.cons_prefix_cons.mp hfront).1 (by decide)
      · exact hlast (hinside.trans hsame.isInfix)
    · exact fun hmark => hlast (hmark.trans (suffix_lastLine h hline).isInfix)

theorem toList_renderAll_text (d : Dialect) (sql : String) :
    (Token.renderAll d (RowSource.text sql).tokens).toList
      = '(' :: (nested sql).toList ++ [')'] := by
  rw [renderAll_text, String.toList_append, String.toList_append]
  rfl

theorem isPrefix_of_isPrefix_concat {c : Char} (hc : c ∉ mark) (h : mark <+: line ++ [c]) :
    mark <+: line := by
  rcases List.prefix_concat_iff.mp h with rfl | h
  · exact absurd (List.mem_append_right line List.mem_cons_self) hc
  · exact h

/-- The parenthesis stands in a comment exactly if a number sign begins one on the last line of the
stripped text, and this line has no hyphens that keep the parenthesis away from it. -/
theorem endsInLineComment_text_iff (d : Dialect) (sql : String) :
    EndsInLineComment d (Token.renderAll d (RowSource.text sql).tokens).toList
      ↔ d = .mysql ∧ endsInLineComment sql = false
        ∧ ∃ comment, Reaches .mysql ((strip sql).toList ++ [')']) ('#' :: comment)
          ∧ '\n' ∉ comment := by
  rw [toList_renderAll_text]
  constructor
  · rintro ⟨rest, hreaches, ⟨mark, hmark, hfront⟩, hrest⟩
    obtain ⟨hne, hparenthesis⟩ : mark ≠ [] ∧ ')' ∉ mark := by
      rcases mem_lineCommentMarks_iff.mp hmark with rfl | ⟨-, rfl⟩ <;> decide
    -- the reading has not come past the parenthesis, so the mark stands in front of it
    rcases List.suffix_concat_iff.mp hreaches.suffix with rfl | ⟨line, rfl, hline⟩
    · exact absurd (List.prefix_nil.mp hfront) hne
    have hends : '\n' ∉ line := mt (List.mem_append_left [')']) hrest
    have hmarkLine := isPrefix_of_isPrefix_concat hparenthesis hfront
    rcases mem_lineCommentMarks_iff.mp hmark with rfl | ⟨rfl, rfl⟩
    · exact absurd hmarkLine.isInfix (not_infix_line hline hends)
    obtain ⟨comment, rfl⟩ := hmarkLine
    have hguard : endsInLineComment sql = false := by
      by_contra hguard
      rw [Bool.not_eq_false] at hguard
      cases eq_nil_of_suffix_nested hguard hline hends
    rw [toList_nested_of_no_comment hguard] at hreaches
    exact ⟨rfl, hguard, comment ++ [')'], (reaches_parenthesis_iff (by decide)).mp hreaches,
      mt (List.mem_cons_of_mem '#') hrest⟩
  · rintro ⟨rfl, hguard, comment, hreaches, hcomment⟩
    rw [toList_nested_of_no_comment hguard]
    refine ⟨'#' :: comment, (reaches_parenthesis_iff (by decide)).mpr hreaches,
      ⟨['#'], mem_lineCommentMarks_iff.mpr (.inr ⟨rfl, rfl⟩), comment, rfl⟩, ?_⟩
    exact List.not_mem_cons_of_ne_of_not_mem (by decide) hcomment

def remarkedText : String := "SELEKT 1 # note;"

theorem reaches_remarkedText :
    Reaches .mysql ((strip remarkedText).toList ++ [')']) "# note)".toList := by
  have hword : step .mysql 'S' "ELEKT 1 # note)".toList
      = some (some (.bare "SELEKT"), " 1 # note)".toList) := by decide
  have hblank : step .mysql ' ' "1 # note)".toList = some (none, "1 # note)".toList) := by decide
  have hnumber : step .mysql '1' " # note)".toList
      = some (some (.number "1" false), " # note)".toList) := by decide
  have hblank' : step .mysql ' ' "# note)".toList = some (none, "# note)".toList) := by decide
  have htext : (strip remarkedText).toList ++ [')'] = "SELEKT 1 # note)".toList := by decide
  rw [htext]
  exact .step hword (.step hblank (.step hnumber (.step hblank' (.here _))))

theorem endsInLineComment_remarkedText : EndsInLineComment .mysql
    (Token.renderAll .mysql (RowSource.text remarkedText).tokens).toList :=
  (endsInLineComment_text_iff .mysql remarkedText).mpr
    ⟨rfl, by decide, " note)".toList, reaches_remarkedText, by decide⟩

/-- Between the parenthesis that closes an unread query text and the last line end in front of it
there are never two hyphens in a row. The parenthesis stands in a comment only in the dialect where
a number sign begins one: exactly if one does on the last line of the stripped text and this line
has no two hyphens. So in the other dialects, and in no more than these, it never does. -/
theorem closing_parenthesis_outcome (d : Dialect) :
    (∀ sql : String, ∃ inside, Token.renderAll d (RowSource.text sql).tokens = "(" ++ inside ++ ")"
      ∧ ∀ line, line <:+ ("(" ++ inside).toList → '\n' ∉ line → ¬ ['-', '-'] <:+: line)
    ∧ (∀ sql : String, EndsInLineComment d (Token.renderAll d (RowSource.text sql).tokens).toList
      ↔ d = .mysql ∧ endsInLineComment sql = false
        ∧ ∃ comment, Reaches .mysql ((strip sql).toList ++ [')']) ('#' :: comment)
          ∧ '\n' ∉ comment)
    ∧ ((∀ sql : String, ¬ EndsInLineComment d
        (Token.renderAll d (RowSource.text sql).tokens).toList) ↔ d ≠ .mysql) := by
  refine ⟨fun sql => ⟨nested sql, renderAll_text d sql, fun line hline hends => ?_⟩,
    endsInLineComment_text_iff d, fun h hd => ?_, fun hd sql h => ?_⟩
  · rw [String.toList_append] at hline
    exact not_infix_line hline hends
  · subst hd
    exact h remarkedText endsInLineComment_remarkedText
  · exact hd ((endsInLineComment_text_iff d sql).mp h).1

/-- A comment behind a number sign takes the closing parenthesis in. -/
theorem not_forall_closing_parenthesis :
    ¬ ∀ (d : Dialect) (sql : String), ¬ EndsInLineComment d
      (Token.renderAll d (RowSource.text (ensure sql)).tokens).toList := by
  intro h
  have hensure : ensure "SELEKT 1 # note" = remarkedText := by decide
  have hends := h .mysql "SELEKT 1 # note"
  rw [hensure] at hends
  exact hends endsInLineComment_remarkedText

-- The parenthesis is not among the lexemes of the text.
example : lexemes? .mysql (Token.renderAll .mysql (RowSource.text "SELEKT 1 # note;").tokens)
    = some [.symbol "(", .bare "SELEKT", .number "1" false] := by decide +kernel

end Terminator

end TriplesSql
