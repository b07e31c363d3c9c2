import TriplesSql.Proofs.Command.Outcome

/-!
# Lines of a script

What is printed for a request is a script if each of its lines is empty, a comment or a line of a
query. The name of a rule is printed behind two hyphens, which make a comment of its first line
only. The lines that do not belong in a script are therefore among the others of the names that are
shown, and there are none of them if each name is on one line.
-/

namespace TriplesSql

namespace Text

variable {cs front : List Char} {line : List Char}

def lines (s : String) : List (List Char) := s.toList.splitOn '\n'

theorem exists_lines_eq_cons (s : String) : ∃ first rest, lines s = first :: rest :=
  List.exists_cons_of_ne_nil (List.splitOnP_ne_nil _ _)

theorem lines_of_not_mem {s : String} (h : '\n' ∉ s.toList) : lines s = [s.toList] := by
  refine List.splitOnP_eq_singleton fun c hc => beq_eq_false_iff_ne.mpr ?_
  rintro rfl
  exact h hc

theorem lines_ended_append (s text : String) :
    lines (s ++ "\n" ++ text) = lines s ++ lines text := by
  have htext : (s ++ "\n" ++ text).toList = s.toList ++ '\n' :: text.toList := by simp
  rw [lines, htext]
  exact List.splitOnP_append_cons _ _ (beq_self_eq_true '\n')

theorem splitOn_append_of_not_mem (h : '\n' ∉ front) :
    (front ++ cs).splitOn '\n' = (cs.splitOn '\n').modifyHead (front ++ ·) := by
  induction front with
  | nil => cases hcs : cs.splitOn '\n' <;> simp [hcs]
  | cons c front ih =>
    have hc : (c == '\n') = false := by
      rw [beq_eq_false_iff_ne]
      rintro rfl
      exact h List.mem_cons_self
    have ih := ih (mt (List.mem_cons_of_mem c) h)
    rw [List.splitOn] at ih ⊢
    rw [List.cons_append, List.splitOnP_cons_eq_if_modifyHead, hc, if_neg Bool.false_ne_true, ih,
      List.modifyHead_modifyHead]
    rfl

theorem mem_lines_append_iff {mark s : String} (h : '\n' ∉ mark.toList) :
    line ∈ lines (mark ++ s)
      ↔ (∃ first, lines s = first :: (lines s).tail ∧ line = mark.toList ++ first)
        ∨ line ∈ (lines s).tail := by
  obtain ⟨first, rest, hlines⟩ := exists_lines_eq_cons s
  have hmarked : lines (mark ++ s) = (mark.toList ++ first) :: rest := by
    rw [lines, String.toList_append, splitOn_append_of_not_mem h, ← lines, hlines]
    rfl
  rw [hmarked, hlines, List.mem_cons, List.tail_cons]
  simp

end Text

namespace Command

open Text (lines)

variable {around : Surroundings} {r : UnfoldRequest} {s : Settings} {d : Document}
  {t : TriplesMap} {q? : Option Query} {line : List Char} {strings : List String}

theorem lines_written (strings : List String) :
    lines (written strings) = strings.flatMap lines ++ [[]] := by
  induction strings with
  | nil => rfl
  | cons x strings ih =>
    have hcons : written (x :: strings) = x ++ "\n" ++ written strings := by
      rw [written, List.map_cons, String.join_cons]
      rfl
    rw [hcons, Text.lines_ended_append, ih, List.flatMap_cons, List.append_assoc]

def heading (t : TriplesMap) : Option Query → String
  | some _ => t.id
  | none => t.id ++ ": no rows can produce the requested subject"

def entry (t : TriplesMap) (q? : Option Query) : List String :=
  ("-- " ++ heading t q?) :: (q?.map (·.sql ++ ";")).toList

theorem tail_lines_heading (h : '\n' ∉ t.id.toList) (q? : Option Query) :
    (lines (heading t q?)).tail = [] := by
  have hheading : '\n' ∉ (heading t q?).toList := by
    cases q? with
    | some q => exact h
    | none =>
      rw [heading, String.toList_append, List.mem_append]
      exact not_or.mpr ⟨h, by decide⟩
  rw [Text.lines_of_not_mem hheading, List.tail_cons]

theorem mem_lines_comment {text : String} (h : line ∈ (lines text).tail) :
    line ∈ lines ("-- " ++ text) :=
  (Text.mem_lines_append_iff (by decide)).mpr (.inr h)

section reader

variable [SqlReader]

/-- A request that succeeds shows the rule that it names, with its query if there is one, or all
rules of the document that have one. -/
inductive Shows (around : Surroundings) (r : UnfoldRequest) : TriplesMap → Option Query → Prop where
  | all {s : Settings} {d : Document} {t : TriplesMap} {u : Unfolded}
    (hs : FindsSettings around r.config s) (hd : HoldsDocument around.files r.file d)
    (hr : r.rule = none) (ht : t ∈ d.rules)
    (hu : (t.unfold (r.adjust s) none).value = .ok (some u)) : Shows around r t (some u.query)
  | one {s : Settings} {d : Document} {t : TriplesMap} {found : Option Unfolded}
    (hs : FindsSettings around r.config s) (hd : HoldsDocument around.files r.file d)
    (hr : r.rule = some t.id) (ht : t ∈ d.rules)
    (hfound : (t.unfold (r.adjust s) r.subject).value = .ok found) :
    Shows around r t (found.map (·.query))

theorem runUnfold_one_entry {found : Option Unfolded} (hs : FindsSettings around r.config s)
    (hd : HoldsDocument around.files r.file d) (hr : r.rule = some t.id) (ht : t ∈ d.rules)
    (hfound : (t.unfold (r.adjust s) r.subject).value = .ok found)
    (hplain : r.showAliases = false) :
    runUnfold around r = .ok (entry t (found.map (·.query))) := by
  rw [runUnfold_one hs hd ht hr, hfound]
  cases found <;> simp [namesLines, hplain, entry, heading, queryLines, String.append_assoc]

theorem mem_entry_of_runUnfold (hplain : r.showAliases = false)
    (hrun : runUnfold around r = .ok strings) {x : String} (hx : x ∈ strings) :
    x = "" ∨ ∃ t q?, Shows around r t q? ∧ x ∈ entry t q? := by
  obtain ⟨⟨s, hs⟩, d, hd⟩ := found_of_runUnfold_eq_ok hrun
  cases hr : r.rule with
  | none =>
    obtain ⟨us, names, hlisted, -, hall⟩ := runUnfold_all hs hd hr
    obtain rfl := Except.ok.inj (hrun.symm.trans hall)
    simp only [namesLines, hplain, Bool.false_eq_true, if_false, List.append_nil, List.mem_flatMap,
      List.mem_append, List.mem_singleton] at hx
    -- what is printed is in the entry of a listed rule or is the empty line behind it
    obtain ⟨u, hu, hx | rfl⟩ := hx
    · have ht : u.1 ∈ d.rules :=
        List.mem_of_mem_filter (hlisted.rules.subset (List.mem_map_of_mem hu))
      exact .inr ⟨u.1, _, .all hs hd hr ht (hlisted.unfolded u hu), hx⟩
    · exact .inl rfl
  | some id =>
    obtain ⟨t, ht, rfl⟩ : ∃ t ∈ d.rules, t.id = id := by
      by_contra hnone
      exact (Fails.absent hd hr (by simpa using hnone)).runUnfold_ne_ok _ hrun
    cases hfound : (t.unfold (r.adjust s) r.subject).value with
    | error e =>
      have hnot := TriplesMap.exists_unfold_eq_error_iff.mp ⟨e, hfound⟩
      exact absurd hrun ((Fails.stopped hd ht hr hnot).runUnfold_ne_ok _)
    | ok found =>
      have hone := runUnfold_one_entry hs hd hr ht hfound hplain
      obtain rfl := Except.ok.inj (hrun.symm.trans hone)
      exact .inr ⟨t, _, .one hs hd hr ht hfound, hx⟩

theorem Shows.runUnfold_eq_ok (h : Shows around r t q?) (hplain : r.showAliases = false) :
    ∃ strings, runUnfold around r = .ok strings ∧ entry t q? ⊆ strings := by
  cases h with
  | @all s d t u hs hd hr ht hu =>
    obtain ⟨us, names, hlisted, -, hrun⟩ := runUnfold_all hs hd hr
    refine ⟨_, hrun, ?_⟩
    have hunfoldable : t.IsUnfoldable := by
      by_contra hnot
      obtain ⟨e, he⟩ := TriplesMap.exists_unfold_eq_error_iff.mpr hnot
      cases he.symm.trans hu
    have hmem := hlisted.rules.symm.subset
      (List.mem_filter.mpr ⟨ht, decide_eq_true hunfoldable⟩)
    obtain ⟨v, hv, rfl⟩ := List.mem_map.mp hmem
    -- the rule stands in the list with this query, as there is only one that it can have
    obtain rfl : v.2 = u := by
      have hvu := (hlisted.unfolded v hv).symm.trans hu
      exact Option.some.inj (Except.ok.inj hvu)
    intro x hx
    exact List.mem_append_left _ (List.mem_flatMap.mpr ⟨v, hv, List.mem_append_left _ hx⟩)
  | one hs hd hr ht hfound =>
    exact ⟨_, runUnfold_one_entry hs hd hr ht hfound hplain, List.Subset.refl _⟩

theorem mem_lines_output_iff {args : List String}
    (hargs : Request.ofArguments? args = some (.unfold r)) (hplain : r.showAliases = false) :
    line ∈ lines (run around args).output
      ↔ line = [] ∨ ∃ t q?, Shows around r t q? ∧ ∃ x ∈ entry t q?, line ∈ lines x := by
  cases hrun : runUnfold around r with
  | error message =>
    rw [output_of_error hargs hrun, Text.lines_of_not_mem List.not_mem_nil, List.mem_singleton]
    refine (or_iff_left ?_).symm
    rintro ⟨t, q?, hshows, -⟩
    obtain ⟨strings, hok, -⟩ := hshows.runUnfold_eq_ok hplain
    cases hrun.symm.trans hok
  | ok strings =>
    rw [output_of_runUnfold hargs hrun, lines_written, List.mem_append, List.mem_singleton,
      List.mem_flatMap, or_comm]
    constructor
    · rintro (hempty | ⟨x, hx, hline⟩)
      · exact .inl hempty
      rcases mem_entry_of_runUnfold hplain hrun hx with rfl | ⟨t, q?, hshows, hx⟩
      · exact .inl (List.mem_singleton.mp hline)
      · exact .inr ⟨t, q?, hshows, x, hx, hline⟩
    · rintro (hempty | ⟨t, q?, hshows, x, hx, hline⟩)
      · exact .inl hempty
      obtain ⟨strings', hok, hsub⟩ := hshows.runUnfold_eq_ok hplain
      obtain rfl := Except.ok.inj (hrun.symm.trans hok)
      exact .inr ⟨x, hsub hx, hline⟩

/-- A line belongs in a script of queries if it is empty, a comment or a line of a query that is
shown. -/
inductive IsScriptLine (around : Surroundings) (r : UnfoldRequest) : List Char → Prop where
  | empty : IsScriptLine around r []
  | comment (cs : List Char) : IsScriptLine around r ('-' :: '-' :: cs)
  | query {t : TriplesMap} {q : Query} {line : List Char} (hshows : Shows around r t (some q))
    (hline : line ∈ lines (q.sql ++ ";")) : IsScriptLine around r line

theorem isScriptLine_or_mem_tail (hshows : Shows around r t q?) {x : String} (hx : x ∈ entry t q?)
    (hline : line ∈ lines x) :
    IsScriptLine around r line ∨ line ∈ (lines (heading t q?)).tail := by
  rcases List.mem_cons.mp hx with rfl | hx
  · rcases (Text.mem_lines_append_iff (by decide)).mp hline with ⟨first, -, rfl⟩ | htail
    · exact .inl (.comment _)
    · exact .inr htail
  · obtain ⟨q, rfl, rfl⟩ : ∃ q, q? = some q ∧ q.sql ++ ";" = x := by simpa using hx
    exact .inl (.query hshows hline)

/-- Every line of a query that is shown is printed. Those lines of the output that do not belong in
a script are exactly those of the headings that are shown that do not and are not the first of their
heading. So there are none if all names of rules that are shown are on one line. -/
theorem run_unfold_script {args : List String}
    (hargs : Request.ofArguments? args = some (.unfold r)) (hplain : r.showAliases = false) :
    (∀ t q, Shows around r t (some q) →
      ∀ line ∈ lines (q.sql ++ ";"), line ∈ lines (run around args).output)
    ∧ (∀ line, (line ∈ lines (run around args).output ∧ ¬IsScriptLine around r line)
      ↔ ∃ t q?, Shows around r t q? ∧ line ∈ (lines (heading t q?)).tail
        ∧ ¬IsScriptLine around r line)
    ∧ ((∀ t q?, Shows around r t q? → '\n' ∉ t.id.toList) →
      ∀ line ∈ lines (run around args).output, IsScriptLine around r line) := by
  have hforeign (line : List Char) :
      (line ∈ lines (run around args).output ∧ ¬IsScriptLine around r line)
        ↔ ∃ t q?, Shows around r t q? ∧ line ∈ (lines (heading t q?)).tail
          ∧ ¬IsScriptLine around r line := by
    rw [mem_lines_output_iff hargs hplain]
    constructor
    · rintro ⟨rfl | ⟨t, q?, hshows, x, hx, hline⟩, hnot⟩
      · exact absurd .empty hnot
      · exact ⟨t, q?, hshows, (isScriptLine_or_mem_tail hshows hx hline).resolve_left hnot, hnot⟩
    · rintro ⟨t, q?, hshows, hline, hnot⟩
      exact ⟨.inr ⟨t, q?, hshows, _, List.mem_cons_self, mem_lines_comment hline⟩, hnot⟩
  refine ⟨fun t q hshows line hline => ?_, hforeign, fun hids line hline => ?_⟩
  · exact (mem_lines_output_iff hargs hplain).mpr
      (.inr ⟨t, some q, hshows, _, List.mem_cons_of_mem _ List.mem_cons_self, hline⟩)
  · by_contra hnot
    obtain ⟨t, q?, hshows, htail, -⟩ := (hforeign line).mp ⟨hline, hnot⟩
    rw [tail_lines_heading (hids t q? hshows) q?] at htail
    cases htail

end reader

def labelledRule (id : String) : TriplesMap := ⟨id, .tableName "employee", .column "id", []⟩

def labelledPlace (id : String) : Surroundings where
  files path := if path = "mapping.json" then .text (Document.mk [labelledRule id]).toText
    else .missing
  places := ⟨none, none⟩

def labelledRequest : UnfoldRequest := ⟨"mapping.json", none, none, none, none, false⟩

theorem ofArguments?_labelledRequest :
    Request.ofArguments? ["unfold", "mapping.json"] = some (.unfold labelledRequest) := by
  decide +kernel

theorem findsSettings_labelledPlace (id : String) :
    FindsSettings (labelledPlace id) labelledRequest.config {} :=
  .defaults (.nowhere rfl (by simp [labelledPlace, Settings.localFile, Entry.isPresent])
    (fun _ h => nomatch h))

theorem holdsDocument_labelledPlace (id : String) :
    HoldsDocument (labelledPlace id).files labelledRequest.file ⟨[labelledRule id]⟩ := by
  have hvalid : (Document.mk [labelledRule id]).validate = .ok () := by
    rw [Document.validate_eq_ok_iff]
    exact ⟨List.nodup_singleton id, List.forall_mem_singleton.mpr rfl⟩
  exact ⟨_, rfl, Document.load_eq_ok_iff.mpr ⟨_, Document.ofText?_toText _, hvalid, rfl⟩⟩

theorem shows_labelledPlace_iff [SqlReader] {id : String} :
    Shows (labelledPlace id) labelledRequest t q? ↔ t = labelledRule id
      ∧ ∃ u, (t.unfold {} none).value = .ok (some u) ∧ some u.query = q? := by
  constructor
  · intro h
    cases h with
    | all hs hd hr ht hu =>
      obtain rfl := hs.unique (findsSettings_labelledPlace id)
      obtain rfl := hd.unique (holdsDocument_labelledPlace id)
      exact ⟨List.mem_singleton.mp ht, _, hu, rfl⟩
    | one hs hd hr => cases hr
  · rintro ⟨rfl, u, hu, rfl⟩
    exact .all (findsSettings_labelledPlace id) (holdsDocument_labelledPlace id) rfl
      List.mem_cons_self hu

theorem mem_lines_output_labelledPlace [SqlReader] {id : String} (h : line ∈ (lines id).tail) :
    line ∈ lines (run (labelledPlace id) ["unfold", "mapping.json"]).output := by
  have hshows : Shows (labelledPlace id) labelledRequest (labelledRule id) _ :=
    shows_labelledPlace_iff.mpr ⟨rfl, _, rfl, rfl⟩
  exact (mem_lines_output_iff ofArguments?_labelledRequest rfl).mpr
    (.inr ⟨_, _, hshows, _, List.mem_cons_self, mem_lines_comment h⟩)

theorem run_unfold_script_labelled :
    Request.ofArguments? ["unfold", "mapping.json"] = some (.unfold labelledRequest)
    ∧ labelledRequest.showAliases = false
    ∧ ∀ line ∈ lines (run (labelledPlace "Emp") ["unfold", "mapping.json"]).output,
      IsScriptLine (labelledPlace "Emp") labelledRequest line := by
  refine ⟨ofArguments?_labelledRequest, rfl, ?_⟩
  refine (run_unfold_script ofArguments?_labelledRequest rfl).2.2 fun t q? hshows => ?_
  rw [(shows_labelledPlace_iff.mp hshows).1]
  decide

def statementName : String := "Emp\nDROP TABLE employee;"

/-- The second line of a name is a statement in the output that no query has. -/
theorem not_forall_isScriptLine :
    ¬∀ (around : Surroundings) (args : List String) (r : UnfoldRequest),
      Request.ofArguments? args = some (.unfold r) → r.showAliases = false →
      ∀ line ∈ lines (run around args).output, IsScriptLine around r line := by
  intro h
  have hprinted : "DROP TABLE employee;".toList
      ∈ lines (run (labelledPlace statementName) ["unfold", "mapping.json"]).output :=
    mem_lines_output_labelledPlace (by decide)
  have hquery : ((labelledRule statementName).unfold {} none).value.map (·.map (·.query.sql))
      = .ok (some "SELECT\n  \"T1\".\"id\" AS \"T1_id\"\nFROM \"employee\" AS \"T1\"") := by
    decide +kernel
  have hline := h (labelledPlace statementName) _ _ ofArguments?_labelledRequest rfl _ hprinted
  -- the line is no index that the cases could take apart while it is a fixed text
  generalize hstatement : "DROP TABLE employee;".toList = statement at hline
  cases hline with
  | empty => cases hstatement
  | comment => cases hstatement
  | query hshows hmem =>
    obtain ⟨rfl, u, hu, hq⟩ := shows_labelledPlace_iff.mp hshows
    obtain rfl := Option.some.inj hq
    rw [hu] at hquery
    have hsql := Option.some.inj (Except.ok.inj hquery)
    dsimp only at hsql
    rw [hsql, ← hstatement] at hmem
    exact absurd hmem (by decide +kernel)

end Command

end TriplesSql
