import TriplesSql.Command.Run
import TriplesSql.Proofs.Text.Trimming
import TriplesSql.Unfold.Rule

/-!
# Terminators at the end of a text

Stripping drops one run of semicolons and the blanks around it. A semicolon stays at the end exactly
if blanks stand between it and the run that is dropped. A terminator that is added joins that run or
makes one, so query text that could not be read is nested as it would be without it.
-/

namespace TriplesSql

open Text

namespace Terminator

variable {sql other : String}

theorem toList_strip (sql : String) : (strip sql).toList
    = dropEndWhile isBlank (dropEndWhile (· == ';') (dropEndWhile isBlank sql.toList)) :=
  String.toList_ofList

theorem isBlank_getLast?_strip (sql : String) :
    ∀ c ∈ (strip sql).toList.getLast?, isBlank c = false := by
  rw [toList_strip]
  exact getLast?_dropEndWhile isBlank _

theorem dropEndWhile_semicolon_eq_self {cs : List Char} (h : cs.getLast? ≠ some ';') :
    dropEndWhile (· == ';') cs = cs := by
  refine dropEndWhile_eq_self fun c hc => beq_eq_false_iff_ne.mpr ?_
  rintro rfl
  exact h hc

theorem isBlank_of_getLast?_semicolon {cs : List Char} (h : cs.getLast? = some ';') :
    ∀ c ∈ cs.getLast?, isBlank c = false := by
  intro c hc
  rw [h] at hc
  rw [← Option.some.inj hc]
  decide

structure IsDropped (sql : String) (before semicolons after : List Char) : Prop where
  text : sql.toList = (strip sql).toList ++ (before ++ (semicolons ++ after))
  before : ∀ c ∈ before, isBlank c = true
  semicolons : ∀ c ∈ semicolons, c = ';'
  after : ∀ c ∈ after, isBlank c = true

/-- A text ends in semicolons with blanks between them. -/
def EndsDivided (sql : String) : Prop :=
  ∃ front blanks semicolons after : List Char,
    sql.toList = front ++ ';' :: (blanks ++ (semicolons ++ after))
      ∧ blanks ≠ [] ∧ semicolons ≠ []
      ∧ (∀ c ∈ blanks, isBlank c = true) ∧ (∀ c ∈ semicolons, c = ';')
      ∧ ∀ c ∈ after, isBlank c = true

theorem mem_of_mem_getLast?_append {c : Char} {front after : List Char} (hafter : after ≠ [])
    (h : c ∈ (front ++ after).getLast?) : c ∈ after := by
  rw [List.getLast?_append_of_ne_nil front hafter] at h
  exact List.mem_of_mem_getLast? h

/-- Each of the three runs ends where its class of characters ends, so a semicolon that stays has
the other two runs behind it. -/
theorem exists_isDropped (sql : String) : ∃ before semicolons after : List Char,
    IsDropped sql before semicolons after
      ∧ ((strip sql).toList.getLast? = some ';' → before ≠ [] ∧ semicolons ≠ []) := by
  obtain ⟨after, htext, hafter⟩ := exists_dropEndWhile isBlank sql.toList
  have htrimmed := getLast?_dropEndWhile isBlank sql.toList
  generalize htrim : dropEndWhile isBlank sql.toList = trimmed at htext htrimmed
  obtain ⟨semicolons, htrimmedText, hsemicolons⟩ := exists_dropEndWhile (· == ';') trimmed
  have hopen := getLast?_dropEndWhile (· == ';') trimmed
  generalize hdrop : dropEndWhile (· == ';') trimmed = opened at htrimmedText hopen
  obtain ⟨before, hopenText, hbefore⟩ := exists_dropEndWhile isBlank opened
  have hstrip : (strip sql).toList = dropEndWhile isBlank opened := by
    rw [toList_strip, htrim, hdrop]
  rw [← hstrip] at hopenText
  have hsemicolon : ∀ c ∈ semicolons, c = ';' := fun c hc => beq_iff_eq.mp (hsemicolons c hc)
  refine ⟨before, semicolons, after, ⟨?_, hbefore, hsemicolon, hafter⟩, fun hlast => ?_⟩
  · rw [htext, htrimmedText, hopenText]
    simp only [List.append_assoc]
  · have hne : before ≠ [] := by
      rintro rfl
      rw [hopenText, List.append_nil] at hopen
      exact absurd (hopen ';' hlast) (by decide)
    refine ⟨hne, ?_⟩
    rintro rfl
    rw [List.append_nil] at htrimmedText
    obtain ⟨c, hc⟩ := Option.ne_none_iff_exists'.mp (mt List.getLast?_eq_none_iff.mp
      (List.append_ne_nil_of_right_ne_nil (strip sql).toList hne))
    rw [htrimmedText, hopenText] at htrimmed
    have hblank := hbefore c (mem_of_mem_getLast?_append hne hc)
    rw [htrimmed c hc] at hblank
    cases hblank

theorem getLast?_strip_iff (sql : String) :
    (strip sql).toList.getLast? = some ';' ↔ EndsDivided sql := by
  constructor
  · intro hlast
    obtain ⟨before, semicolons, after, hdropped, hne⟩ := exists_isDropped sql
    obtain ⟨front, hfront⟩ := List.getLast?_eq_some_iff.mp hlast
    refine ⟨front, before, semicolons, after, ?_, (hne hlast).1, (hne hlast).2, hdropped.before,
      hdropped.semicolons, hdropped.after⟩
    rw [hdropped.text, hfront, List.append_assoc, List.singleton_append]
  · rintro ⟨front, blanks, semicolons, after, htext, hblanks, hsemicolons, hblank, hsemicolon,
      hafter⟩
    have htrim : dropEndWhile isBlank sql.toList = front ++ ';' :: blanks ++ semicolons := by
      have hsplit : sql.toList = front ++ ';' :: blanks ++ semicolons ++ after := by
        rw [htext]
        simp only [List.append_assoc, List.cons_append]
      rw [hsplit]
      refine dropEndWhile_append (fun c hc => ?_) hafter
      rw [hsemicolon c (mem_of_mem_getLast?_append hsemicolons hc)]
      decide
    have hopen : dropEndWhile (· == ';') (front ++ ';' :: blanks ++ semicolons)
        = front ++ [';'] ++ blanks := by
      rw [List.append_cons front ';' blanks]
      refine dropEndWhile_append (fun c hc => ?_) fun c hc => beq_iff_eq.mpr (hsemicolon c hc)
      have hc := hblank c (mem_of_mem_getLast?_append hblanks hc)
      rw [beq_eq_false_iff_ne]
      rintro rfl
      exact absurd hc (by decide)
    have hkept : dropEndWhile isBlank (front ++ [';'] ++ blanks) = front ++ [';'] :=
      dropEndWhile_append (isBlank_of_getLast?_semicolon List.getLast?_concat) hblank
    rw [toList_strip, htrim, hopen, hkept, List.getLast?_concat]

theorem strip_strip_iff (sql : String) :
    strip (strip sql) = strip sql ↔ (strip sql).toList.getLast? ≠ some ';' := by
  have hblank := dropEndWhile_eq_self (isBlank_getLast?_strip sql)
  have htext : (strip (strip sql)).toList
      = dropEndWhile isBlank (dropEndWhile (· == ';') (strip sql).toList) := by
    rw [toList_strip, hblank]
  rw [← String.toList_inj, htext]
  constructor
  · intro h hlast
    -- what is dropped twice is no longer than what is dropped once
    have hsame : dropEndWhile (· == ';') (strip sql).toList = (strip sql).toList := by
      have hbegins : (strip sql).toList <+: dropEndWhile (· == ';') (strip sql).toList := by
        have hle := List.rdropWhile_prefix isBlank (dropEndWhile (· == ';') (strip sql).toList)
        rwa [← dropEndWhile_eq_rdropWhile, h] at hle
      have hback := List.rdropWhile_prefix (· == ';') (strip sql).toList
      exact (hbegins.eq_of_length_le hback.length_le).symm
    have hend := getLast?_dropEndWhile (· == ';') (strip sql).toList
    rw [hsame] at hend
    exact absurd (hend ';' hlast) (by decide)
  · intro hlast
    rw [dropEndWhile_semicolon_eq_self hlast, hblank]

def nested (sql : String) : String :=
  strip sql ++ if endsInLineComment sql then "\n" else ""

theorem renderAll_text (d : Dialect) (sql : String) :
    Token.renderAll d (RowSource.text sql).tokens = "(" ++ nested sql ++ ")" := by
  simp only [RowSource.tokens, nested]
  cases endsInLineComment sql <;> simp [Token.renderAll, Token.render, String.append_assoc]

theorem trimEnd_nested (sql : String) : trimEnd (nested sql) = strip sql := by
  have hnewline : ∀ c ∈ (if endsInLineComment sql then "\n" else "").toList, isBlank c = true := by
    split <;> exact List.all_eq_true.mp rfl
  rw [trimEnd, nested, String.toList_append,
    dropEndWhile_append (isBlank_getLast?_strip sql) hnewline, String.ofList_toList]

/-- Stripping drops blanks, semicolons and blanks from the end of a text and leaves no blank there.
It leaves a semicolon exactly if the text ends in semicolons with blanks between them; otherwise a
second stripping drops nothing, and what stands between the parentheses of an unread query has no
terminator at its end. -/
theorem strip_outcome (sql : String) :
    (∃ before semicolons after, IsDropped sql before semicolons after)
    ∧ (∀ c ∈ (strip sql).toList.getLast?, isBlank c = false)
    ∧ ((strip sql).toList.getLast? = some ';' ↔ EndsDivided sql)
    ∧ (strip (strip sql) = strip sql ↔ ¬ EndsDivided sql)
    ∧ ∀ d : Dialect, ∃ inside, Token.renderAll d (RowSource.text sql).tokens = "(" ++ inside ++ ")"
      ∧ ((trimEnd inside).toList.getLast? = some ';' ↔ EndsDivided sql) := by
  obtain ⟨before, semicolons, after, hdropped, -⟩ := exists_isDropped sql
  refine ⟨⟨before, semicolons, after, hdropped⟩, isBlank_getLast?_strip sql,
    getLast?_strip_iff sql, ?_, fun d => ⟨nested sql, renderAll_text d sql, ?_⟩⟩
  · rw [strip_strip_iff, ← getLast?_strip_iff]
  · rw [trimEnd_nested, getLast?_strip_iff]

/-- Of two semicolons with a blank between them the first one stays. -/
theorem not_forall_strip_complete :
    ¬ ∀ sql : String, ∀ c ∈ (strip sql).toList.getLast?, isBlank c = false ∧ c ≠ ';' := by
  intro h
  have hlast : (strip "SELEKT 1; ;").toList.getLast? = some ';' := by decide
  exact (h "SELEKT 1; ;" ';' hlast).2 rfl

theorem toList_ensure (sql : String) : (ensure sql).toList
    = if (dropEndWhile isBlank sql.toList).getLast? = some ';' then dropEndWhile isBlank sql.toList
      else dropEndWhile isBlank sql.toList ++ [';'] :=
  String.toList_ofList

theorem getLast?_ensure (sql : String) : (ensure sql).toList.getLast? = some ';' := by
  rw [toList_ensure]
  split
  · assumption
  · exact List.getLast?_concat

theorem dropEndWhile_isBlank_ensure (sql : String) :
    dropEndWhile isBlank (ensure sql).toList = (ensure sql).toList :=
  dropEndWhile_eq_self (isBlank_of_getLast?_semicolon (getLast?_ensure sql))

theorem ensure_ensure (sql : String) : ensure (ensure sql) = ensure sql := by
  rw [← String.toList_inj, toList_ensure, dropEndWhile_isBlank_ensure, if_pos (getLast?_ensure sql)]

theorem ensure_congr (h : dropEndWhile isBlank sql.toList = dropEndWhile isBlank other.toList) :
    ensure sql = ensure other := by
  rw [ensure, ensure, h]

theorem dropEndWhile_concat_semicolon {cs : List Char} (h : cs.getLast? ≠ some ';') :
    dropEndWhile (· == ';') (cs ++ [';']) = cs := by
  rw [dropEndWhile_concat_of_pos (by decide), dropEndWhile_semicolon_eq_self h]

theorem strip_ensure (sql : String) : strip (ensure sql) = strip sql := by
  rw [← String.toList_inj, toList_strip, toList_strip, dropEndWhile_isBlank_ensure, toList_ensure]
  split
  · rfl
  · next hlast =>
    rw [dropEndWhile_concat_semicolon hlast, dropEndWhile_semicolon_eq_self hlast]

theorem dropEndWhile_append_blanks {blanks : String} (h : ∀ c ∈ blanks.toList, isBlank c = true) :
    dropEndWhile isBlank (sql ++ blanks).toList = dropEndWhile isBlank sql.toList := by
  rw [String.toList_append, dropEndWhile_append_of_pos h]

theorem strip_append_semicolon (h : (trimEnd sql).toList.getLast? ≠ some ';') :
    strip (sql ++ ";") = strip sql := by
  rw [trimEnd, String.toList_ofList] at h
  have hsql : sql.toList.getLast? ≠ some ';' := by
    intro hlast
    have htrim := dropEndWhile_eq_self (isBlank_of_getLast?_semicolon hlast)
    rw [htrim] at h
    exact h hlast
  have htext : (sql ++ ";").toList = sql.toList ++ [';'] := String.toList_append
  rw [← String.toList_inj, toList_strip, toList_strip, htext,
    dropEndWhile_concat_of_neg (by decide), dropEndWhile_concat_semicolon hsql,
    dropEndWhile_semicolon_eq_self h, dropEndWhile_eq_self (getLast?_dropEndWhile isBlank _)]

theorem renderAll_congr (h : strip sql = strip other) (d : Dialect) :
    Token.renderAll d (RowSource.text sql).tokens
      = Token.renderAll d (RowSource.text other).tokens := by
  rw [renderAll_text, renderAll_text, nested, nested, endsInLineComment, endsInLineComment, h]

/-- A query text that can not be read is passed through with a terminator. In every dialect it is
then written between parentheses as it was before, without the terminators at its end, and with a
line end if its last line has a comment. Adding a terminator twice is adding it once, and neither
blanks at the end of the text nor a semicolon behind a text without one make a difference. -/
theorem unread_outcome [SqlReader] (sql : String) :
    (∀ (d : Dialect) (e : Select.ReadError), SqlReader.read d (ensure sql) = .error e →
      (LogicalTable.queryString sql).resolve d = ⟨some (.text (ensure sql)), [.queryUnread d e]⟩)
    ∧ (∀ d : Dialect, Token.renderAll d (RowSource.text (ensure sql)).tokens
      = "(" ++ strip sql ++ (if endsInLineComment sql then "\n" else "") ++ ")")
    ∧ ensure (ensure sql) = ensure sql
    ∧ (ensure sql).toList.getLast? = some ';'
    ∧ (∀ blanks : String, (∀ c ∈ blanks.toList, isBlank c = true) → ∀ d : Dialect,
      Token.renderAll d (RowSource.text (ensure (sql ++ blanks))).tokens
        = Token.renderAll d (RowSource.text (ensure sql)).tokens)
    ∧ ((trimEnd sql).toList.getLast? ≠ some ';' → ∀ d : Dialect,
      Token.renderAll d (RowSource.text (ensure (sql ++ ";"))).tokens
        = Token.renderAll d (RowSource.text (ensure sql)).tokens) := by
  refine ⟨fun d e hread => ?_, fun d => ?_, ensure_ensure sql, getLast?_ensure sql,
    fun blanks hblanks d => ?_, fun hlast d => ?_⟩
  · simp only [LogicalTable.resolve, RowSource.ofQueryText, hread]
  · rw [renderAll_congr (strip_ensure sql), renderAll_text, nested, ← String.append_assoc]
  · rw [ensure_congr (dropEndWhile_append_blanks hblanks)]
  · refine renderAll_congr ?_ d
    rw [strip_ensure, strip_ensure, strip_append_semicolon hlast]

def openText : String := "SELEKT id FROM t WHERE note = 'x -- y\n "

theorem unread_outcome_openText :
    Select.read .mysql (ensure openText) = .error .malformed
    ∧ (LogicalTable.queryString openText).resolve .mysql
      = ⟨some (.text "SELEKT id FROM t WHERE note = 'x -- y;"), [.queryUnread .mysql .malformed]⟩
    ∧ Token.renderAll .tsql (RowSource.text (ensure (openText ++ "\t"))).tokens
      = "(SELEKT id FROM t WHERE note = 'x -- y\n)"
    ∧ (trimEnd openText).toList.getLast? ≠ some ';'
    ∧ Token.renderAll .tsql (RowSource.text (ensure (openText ++ ";"))).tokens
      = "(SELEKT id FROM t WHERE note = 'x -- y\n)" := by
  obtain ⟨hresolve, hrender, -, -, hblanks, hsemicolon⟩ := unread_outcome openText
  have hread : Select.read .mysql (ensure openText) = .error .malformed := by rfl
  have hlast : (trimEnd openText).toList.getLast? ≠ some ';' := by decide
  have htext : "(" ++ strip openText ++ (if endsInLineComment openText then "\n" else "") ++ ")"
      = "(SELEKT id FROM t WHERE note = 'x -- y\n)" := by decide
  refine ⟨hread, ?_, ?_, hlast, ?_⟩
  · exact hresolve .mysql .malformed hread
  · rw [hblanks "\t" (List.all_eq_true.mp rfl), hrender, htext]
  · rw [hsemicolon hlast, hrender, htext]

end Terminator

end TriplesSql
