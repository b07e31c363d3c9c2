import TriplesSql.Command.Run
import TriplesSql.Proofs.Unfold.Scope

/-!
# Labels that are shared

A label is the plain name of its column or that name with a number behind it, so it begins with the
name of the source that the column is read from. Names of sources have their numbers between the
prefix, which may be any text, and an underscore, so columns of different sources never share a
label. Where names may be used twice, columns of one source share it whose plain names are equal.
-/

namespace TriplesSql

theorem takeWhile_isDigit_toString (n : Nat) (x : String) :
    (toString n ++ ("_" ++ x)).toList.takeWhile Char.isDigit = (toString n).toList := by
  have hdigits : ∀ c ∈ (toString n).toList, c.isDigit = true :=
    fun _ => isDigit_of_mem_toString
  have hrest : ("_" ++ x).toList.takeWhile Char.isDigit = [] := by
    rw [String.toList_append]
    rfl
  rw [String.toList_append, List.takeWhile_append_of_pos hdigits, hrest, List.append_nil]

/-- The digits in front of the underscore tell the number of the source. -/
theorem sourceName_append_inj {aliasPrefix x y : String} {m n : Nat}
    (h : sourceName aliasPrefix m ++ ("_" ++ x) = sourceName aliasPrefix n ++ ("_" ++ y)) :
    m = n := by
  simp only [sourceName, String.append_assoc, String.append_right_inj] at h
  have hdigits : (toString m).toList = (toString n).toList := by
    rw [← takeWhile_isDigit_toString m x, h, takeWhile_isDigit_toString]
  exact toString_nat_inj (String.toList_inj.mp hdigits)

def plainName (column : String) : String :=
  String.ofList (column.toList.map fun c => if c.isAlphanum then c else '_')

theorem outputName_eq (table column : String) :
    outputName table column = table ++ ("_" ++ plainName column) := by
  rw [← String.append_assoc]
  rfl

theorem exists_candidate_outputName (table column : String) (k : Nat) :
    ∃ x, candidate (outputName table column) k = table ++ ("_" ++ x) := by
  rw [outputName_eq]
  cases k with
  | zero => exact ⟨plainName column, rfl⟩
  | succ k =>
    refine ⟨plainName column ++ ("_" ++ toString (k + 2)), ?_⟩
    show table ++ ("_" ++ plainName column) ++ "_" ++ toString (k + 2) = _
    simp only [String.append_assoc]

/-- The labels of a query under a policy for names that are in use: columns of different sources
have different labels. Where names are kept, columns of one source have the same label exactly if
their plain names are equal, and then they are different columns. -/
structure Query.Separates (q : Query) (policy : CollisionPolicy) : Prop where
  labelled : ∀ c ∈ q.outputs, ∃ label, c.label = some label
  sources : ∀ c ∈ q.outputs, ∀ d ∈ q.outputs, c.table ≠ d.table → c.label ≠ d.label
  shared : policy = .keep → q.outputs.Pairwise fun c d => c.label = d.label
    ↔ c.table = d.table ∧ c.column ≠ d.column ∧ plainName c.column = plainName d.column

theorem Query.Separates.congr {q q' : Query} {policy : CollisionPolicy} (h : q.Separates policy)
    (he : q'.outputs = q.outputs) : q'.Separates policy := by
  constructor
  · rw [he]
    exact h.labelled
  · rw [he]
    exact h.sources
  · rw [he]
    exact h.shared

namespace Progress

variable [SqlReader] {t : TriplesMap} {s : Settings} {n : Nat} {p : Progress}
  {c d : OutputColumn}

theorem Reached.exists_label (h : p.Reached t s n) (hc : c ∈ p.query.outputs) :
    ∃ k, c.label = some (candidate (outputName c.table c.column) k)
      ∧ (s.onCollision = .keep → k = 0) := by
  rw [h.names.outputs] at hc
  cases hs : s.onCollision with
  | rename =>
    have hsettled := ((Recorded.start s.dialect []).foldl hs (t.readsUpTo s n)).settled c hc
    have hlabel := congrArg OutputColumn.label hsettled
    obtain ⟨k, -, -, hname⟩ :=
      ((t.readsUpTo s n).foldl (projectRead s) (start s.dialect [])).query.nameFor_rename c
    refine ⟨k, ?_, fun hkeep => nomatch hkeep⟩
    rw [hlabel, ← hname]
    rfl
  | keep =>
    rw [plainlyRead_foldl hs (t.readsUpTo s n)] at hc
    obtain ⟨cell, -, rfl⟩ := List.mem_map.mp hc
    exact ⟨0, rfl, fun _ => rfl⟩

theorem Reached.exists_sourceName (h : p.Reached t s n) (hc : c ∈ p.query.outputs) :
    ∃ m, c.table = sourceName s.aliasPrefix m := by
  rcases List.mem_cons.mp (h.table_mem_labels hc) with hbase | hjoin
  · exact ⟨1, hbase⟩
  · obtain ⟨j, -, hj⟩ := List.mem_map.mp hjoin
    exact ⟨j + 2, hj.symm⟩

theorem Reached.table_eq_of_label_eq (h : p.Reached t s n) (hc : c ∈ p.query.outputs)
    (hd : d ∈ p.query.outputs) (hl : c.label = d.label) : c.table = d.table := by
  obtain ⟨j, hj, -⟩ := h.exists_label hc
  obtain ⟨k, hk, -⟩ := h.exists_label hd
  obtain ⟨m, hm⟩ := h.exists_sourceName hc
  obtain ⟨m', hm'⟩ := h.exists_sourceName hd
  obtain ⟨x, hx⟩ := exists_candidate_outputName c.table c.column j
  obtain ⟨y, hy⟩ := exists_candidate_outputName d.table d.column k
  have hname : c.table ++ ("_" ++ x) = d.table ++ ("_" ++ y) := by
    rw [← hx, ← hy]
    exact Option.some.inj (hj.symm.trans (hl.trans hk))
  rw [hm, hm'] at hname
  rw [hm, hm', sourceName_append_inj hname]

theorem Reached.label_eq_iff (h : p.Reached t s n) (hs : s.onCollision = .keep)
    (hc : c ∈ p.query.outputs) (hd : d ∈ p.query.outputs) :
    c.label = d.label ↔ c.table = d.table ∧ plainName c.column = plainName d.column := by
  have plain : ∀ {e : OutputColumn}, e ∈ p.query.outputs →
      e.label = some (e.table ++ ("_" ++ plainName e.column)) := by
    intro e he
    obtain ⟨k, hk, hzero⟩ := h.exists_label he
    rw [hk, hzero hs, ← outputName_eq]
    rfl
  constructor
  · intro hl
    have htable := h.table_eq_of_label_eq hc hd hl
    rw [plain hc, plain hd, htable, Option.some.injEq, String.append_right_inj,
      String.append_right_inj] at hl
    exact ⟨htable, hl⟩
  · rintro ⟨htable, hname⟩
    rw [plain hc, plain hd, htable, hname]

theorem Reached.nodup_cells (h : p.Reached t s n) :
    (p.query.outputs.map OutputColumn.cell).Nodup := by
  rw [h.names.outputs, cells_foldl]
  exact nodup_eraseDups _

theorem Reached.separates (h : p.Reached t s n) : p.query.Separates s.onCollision := by
  constructor
  · intro c hc
    obtain ⟨k, hk, -⟩ := h.exists_label hc
    exact ⟨_, hk⟩
  · intro c hc d hd htable hl
    exact htable (h.table_eq_of_label_eq hc hd hl)
  · intro hs
    have hcells := List.pairwise_map.mp h.nodup_cells
    refine hcells.imp_of_mem fun {c d} hc hd hne => ?_
    rw [h.label_eq_iff hs hc hd]
    constructor
    · rintro ⟨htable, hname⟩
      refine ⟨htable, fun hcolumn => hne ?_, hname⟩
      rw [OutputColumn.cell, htable, hcolumn]
      rfl
    · rintro ⟨htable, -, hname⟩
      exact ⟨htable, hname⟩

end Progress

namespace TriplesMap

/-- Whatever the prefix of the names of sources is and whatever is done about names that are in use,
columns of different sources have different labels in the query of a rule and in that of its
subject. Under both policies a label tells the source, and where names are kept it tells the plain
name of the column as well. -/
theorem separates_of_unfold [SqlReader] (t : TriplesMap) (s : Settings) :
    (∀ (subject : Option String) (u : Unfolded), (t.unfold s subject).value = .ok (some u) →
      u.query.Separates s.onCollision)
    ∧ ∀ u : Unfolded, (t.unfoldSubject s).value = .ok u → u.query.Separates s.onCollision := by
  constructor
  · intro subject u h
    obtain ⟨p, hp, houtputs, -, -⟩ := unfold_eq_some h
    exact (reached_of_unfoldAll hp).separates.congr houtputs
  · intro u h
    obtain ⟨p, hp, rfl⟩ := unfoldSubject_eq_ok_iff.mp h
    exact (Progress.reached_addBase hp).separates

def numberedRule : TriplesMap where
  id := "Emp"
  table := .tableName "employee"
  subject := .column "2 id"
  predicateObjects := [⟨[], [.column "2_id"], []⟩,
    ⟨[], [], [⟨"Dept", [], some (.tableName "dept"), some (.column "id")⟩]⟩]

theorem separates_numberedRule :
    (∃ u, (numberedRule.unfold { aliasPrefix := "T1_", onCollision := .keep } none).value
        = .ok (some u)
      ∧ u.query.outputs.map (·.label) = [some "T1_1_2_id", some "T1_1_2_id", some "T1_2_id"]
      ∧ u.query.Separates .keep)
    ∧ ∃ u, (numberedRule.unfoldSubject { aliasPrefix := "T1_" }).value = .ok u
      ∧ u.query.outputs.map (·.label) = [some "T1_1_2_id"]
      ∧ u.query.Separates .rename := by
  have hkeep := (separates_of_unfold numberedRule { aliasPrefix := "T1_", onCollision := .keep }).1
  have hrename := (separates_of_unfold numberedRule { aliasPrefix := "T1_" }).2
  have hall : (numberedRule.unfold { aliasPrefix := "T1_", onCollision := .keep }
      none).value.toOption.join.map (fun u => u.query.outputs.map (·.label))
        = some [some "T1_1_2_id", some "T1_1_2_id", some "T1_2_id"] := by decide +kernel
  have hsubject : (numberedRule.unfoldSubject { aliasPrefix := "T1_" }).value.map
      (fun u => u.query.outputs.map (·.label)) = .ok [some "T1_1_2_id"] := by rfl
  obtain ⟨u, hu, hlabels⟩ := exists_of_map_eq_some hall
  refine ⟨⟨u, hu, hlabels, hkeep none u hu⟩, ?_⟩
  obtain ⟨v, hv, hlabel⟩ := map_eq_ok_iff.mp hsubject
  exact ⟨v, hv, hlabel, hrename v hv⟩

end TriplesMap

end TriplesSql
