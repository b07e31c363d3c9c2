import TriplesSql.Command.Run
import TriplesSql.Proofs.Mapping.Demand
import TriplesSql.Proofs.Unfold.Cells

/-!
# Columns of the filter

The filter of a rule compares the columns that the references of its subject name, and these were
read before as output columns. A reference that names nothing is passed over there and only there:
the filter compares a column without a name, which no query gives out.
-/

namespace TriplesSql

theorem Registry.mem_names_recordTerm_iff {r : Registry} {a k : TermAddress} {label name : String} :
    name ∈ ((r.recordTerm a label).terms[k]?).getD []
      ↔ name ∈ (r.terms[k]?).getD [] ∨ a = k ∧ name = label := by
  rw [terms_recordTerm]
  by_cases ha : a = k
  · subst ha
    by_cases hl : label ∈ (r.terms[a]?).getD []
    · simp only [if_pos hl, true_and]
      exact ⟨Or.inl, fun h => h.elim id fun he => he ▸ hl⟩
    · simp only [if_neg hl, Std.ExtTreeMap.getElem?_insert_self, Option.getD_some, true_and]
      rw [List.mem_append, List.mem_singleton]
  · simp only [ha, false_and, or_false]
    split
    · rfl
    · rw [Std.ExtTreeMap.getElem?_insert, if_neg (by simpa using ha)]

/-- An output column is on record for a term map under its label. -/
def OutputColumn.IsRecorded (c : OutputColumn) (a : TermAddress) (r : Registry) : Prop :=
  ∃ label ∈ c.label, label ∈ (r.terms[a]?).getD []

namespace Progress

def Shows (reads : List ColumnRead) (p : Progress) : Prop :=
  ∀ r ∈ reads, ∀ cell ∈ r.cell?,
    ∃ c ∈ p.query.outputs, c.cell = cell ∧ c.IsRecorded r.address p.registry

variable {reads : List ColumnRead} {p q : Progress}

theorem Shows.mono (h : p.Shows reads) (hout : ∀ c ∈ p.query.outputs, c ∈ q.query.outputs)
    (hreg : ∀ (a : TermAddress) label, label ∈ (p.registry.terms[a]?).getD [] →
      label ∈ (q.registry.terms[a]?).getD []) : q.Shows reads := by
  intro r hr cell hcell
  obtain ⟨c, hc, he, label, hl, hname⟩ := h r hr cell hcell
  exact ⟨c, hout c hc, he, label, hl, hreg r.address label hname⟩

theorem Shows.addColumn (h : p.Shows reads) (s : Settings) (r : ColumnRead) :
    (p.addColumn s r.address r.source r.reference).Shows (reads ++ [r]) := by
  cases hc : OutputColumn.ofReference? r.reference r.source with
  | none =>
    have hcell : r.cell? = none := by rw [ColumnRead.cell?, hc]; rfl
    rw [addColumn_of_none hc]
    refine List.forall_mem_append.mpr ⟨h, List.forall_mem_singleton.mpr fun cell hm => ?_⟩
    rw [hcell] at hm
    cases hm
  | some c =>
    have hcell : r.cell? = some c.cell := by rw [ColumnRead.cell?, hc]; rfl
    have hold : (p.addColumn s r.address r.source r.reference).Shows reads := by
      refine h.mono (fun d hd => ?_) fun a label hl => ?_
      · rw [addColumn_query hc]
        exact Query.mem_outputs_addOutput.mpr (Or.inl hd)
      · rw [addColumn_registry hc]
        exact Registry.mem_names_recordTerm_iff.mpr (Or.inl hl)
    refine List.forall_mem_append.mpr ⟨hold, List.forall_mem_singleton.mpr fun cell hm => ?_⟩
    obtain rfl := Option.some.inj (hcell.symm.trans hm)
    refine ⟨{ c with label := some (p.query.nameFor s.onCollision c).value }, ?_, rfl, _, rfl, ?_⟩
    · rw [addColumn_query hc]
      exact Query.mem_outputs_addOutput.mpr (Or.inr rfl)
    · rw [addColumn_registry hc]
      exact Registry.mem_names_recordTerm_iff.mpr (Or.inr ⟨rfl, rfl⟩)

theorem shows_foldl (s : Settings) (rs : List TermRead) :
    (rs.foldl (projectRead s) (start s.dialect [])).Shows (rs.flatMap TermRead.columns) :=
  foldl_columns (P := Shows) (fun _ _ r h => h.addColumn s r) rs
    fun _ hr => absurd hr List.not_mem_nil

variable [SqlReader] {t : TriplesMap} {s : Settings} {n : Nat}

theorem Reached.shows (h : p.Reached t s n) :
    p.Shows ((t.readsUpTo s n).flatMap TermRead.columns) := by
  refine (shows_foldl s (t.readsUpTo s n)).mono (fun c hc => ?_) fun a label hl => ?_
  · rw [h.names.outputs]
    exact hc
  · rw [h.names.terms]
    exact hl

theorem Reached.column_ne_empty (h : p.Reached t s n) {c : OutputColumn}
    (hc : c ∈ p.query.outputs) : c.column ≠ "" := by
  have hcell : c.cell ∈ p.query.outputs.map OutputColumn.cell := List.mem_map_of_mem hc
  rw [h.names.outputs, cells_foldl, List.mem_eraseDups, List.filterMap_flatMap] at hcell
  obtain ⟨r, -, hcell⟩ := List.mem_flatMap.mp hcell
  rw [filterMap_cell?] at hcell
  obtain ⟨column, hcolumn, he⟩ := List.mem_map.mp hcell
  obtain rfl : column = c.column := (Prod.mk.inj he).2
  have hne := (List.mem_filter.mp hcolumn).2
  simpa using hne

theorem Reached.exists_recorded (h : p.Reached t s n) {reference : String}
    (hr : reference ∈ t.subject.columns) (hne : Text.unquote reference ≠ "") :
    ∃ c ∈ p.query.outputs, c.cell = (TriplesMap.baseAlias s, Text.unquote reference)
      ∧ c.IsRecorded (.subject t.id) p.registry := by
  have hread : (⟨.subject t.id, TriplesMap.baseAlias s, reference⟩ : ColumnRead)
      ∈ (t.readsUpTo s n).flatMap TermRead.columns :=
    List.mem_flatMap.mpr ⟨_, List.mem_cons_self, List.mem_map.mpr ⟨reference, hr, rfl⟩⟩
  refine h.shows _ hread _ ?_
  simp [ColumnRead.cell?, OutputColumn.ofReference?, hne, OutputColumn.cell]

end Progress

/-- The filter for a subject compares the columns that the references of the rule's subject name,
each as often as there are references of it. Such a column is an output column that is on record for
the subject exactly if it has a name. -/
theorem filter_of_unfold [SqlReader] (t : TriplesMap) (s : Settings) (value : String) (u : Unfolded)
    (h : (t.unfold s (some value)).value = .ok (some u)) :
    ∃ condition, u.query.filter = some condition
      ∧ condition.columns = t.subject.columns.map (fun reference =>
        (some (TriplesMap.baseAlias s), Text.unquote reference))
      ∧ ∀ x ∈ condition.columns,
        (∃ c ∈ u.query.outputs, x = (some c.table, c.column)
          ∧ c.IsRecorded (.subject t.id) u.registry)
        ↔ x.2 ≠ "" := by
  obtain ⟨p, hp, hq, hreg⟩ := TriplesMap.unfold_eq_some_iff.mp h
  have hreached := TriplesMap.reached_of_unfoldAll hp
  have hfilter := (TriplesMap.unrestricted_of_unfoldAll hp).filter
  obtain ⟨houtputs, -⟩ := TriplesMap.columns_of_restricted? hq
  obtain ⟨condition, hc, hq⟩ := Option.map_eq_some_iff.mp hq
  rw [TermMap.conditionFor?_eq] at hc
  obtain ⟨demands, hd, rfl⟩ := Option.map_eq_some_iff.mp hc
  have hcolumns : (TermMap.meets (TriplesMap.baseAlias s) demands).columns
      = t.subject.columns.map fun reference =>
        (some (TriplesMap.baseAlias s), Text.unquote reference) := by
    rw [TermMap.columns_meets, ← TermMap.map_fst_demands hd, List.map_map]
    rfl
  refine ⟨_, ?_, hcolumns, ?_⟩
  · rw [← hq, Query.restrict, hfilter]
  · rw [hcolumns, List.forall_mem_map, houtputs, hreg]
    intro reference hr
    simp only [Prod.mk.injEq, Option.some.injEq]
    constructor
    · rintro ⟨c, hmem, ⟨-, hname⟩, -⟩
      rw [hname]
      exact hreached.column_ne_empty hmem
    · intro hne
      obtain ⟨c, hmem, hcell, hrecorded⟩ := hreached.exists_recorded hr hne
      simp only [OutputColumn.cell, Prod.mk.injEq] at hcell
      exact ⟨c, hmem, ⟨hcell.1.symm, hcell.2.symm⟩, hrecorded⟩

/-- The column that the subject names twice is compared twice and given out once. -/
theorem filter_sharingRule :
    ∃ u condition, (sharingRule.unfold {} (some "7/7")).value = .ok (some u)
      ∧ u.query.outputs.map OutputColumn.cell = [("T1", "id"), ("T2", "id")]
      ∧ u.query.filter = some condition
      ∧ condition.columns = [(some "T1", "id"), (some "T1", "id")]
      ∧ ∀ x ∈ condition.columns, ∃ c ∈ u.query.outputs, x = (some c.table, c.column)
        ∧ c.IsRecorded (.subject "Emp") u.registry := by
  have hout : (sharingRule.unfold {} (some "7/7")).value.toOption.join.map
      (fun u => u.query.outputs.map OutputColumn.cell) = some [("T1", "id"), ("T2", "id")] := by
    decide +kernel
  obtain ⟨u, hu, hcells⟩ := TriplesMap.exists_of_map_eq_some hout
  obtain ⟨condition, hfilter, hcolumns, hall⟩ := filter_of_unfold sharingRule {} "7/7" u hu
  have hnames : sharingRule.subject.columns.map (fun reference =>
      (some (TriplesMap.baseAlias {}), Text.unquote reference))
        = [(some "T1", "id"), (some "T1", "id")] := by decide +kernel
  refine ⟨u, condition, hu, hcells, hfilter, hcolumns.trans hnames, fun x hx => ?_⟩
  refine (hall x hx).mpr ?_
  rw [hcolumns, hnames] at hx
  have hnamed : ∀ x ∈ [(some "T1", "id"), (some "T1", "id")], x.2 ≠ "" := by decide
  exact hnamed x hx

def blankRule : TriplesMap where
  id := "Emp"
  table := .tableName "employee"
  subject := .template "http://ex.org/\x7bid\x7d/\x7b \x7d"
  predicateObjects := []

/-- The filter compares a column without a name, which is not given out. -/
theorem not_forall_filter_recorded :
    ¬∀ (t : TriplesMap) (s : Settings) (value : String) (u : Unfolded) (condition : Condition),
      (t.unfold s (some value)).value = .ok (some u) → u.query.filter = some condition →
      ∀ x ∈ condition.columns, ∃ c ∈ u.query.outputs, x = (some c.table, c.column)
        ∧ c.IsRecorded (.subject t.id) u.registry := by
  intro h
  have hout : (blankRule.unfold {} (some "http://ex.org/7/8")).value.toOption.join.map
      (fun u => (u.query.filter.map Condition.columns, u.query.outputs.map OutputColumn.cell))
        = some (some [(some "T1", "id"), (some "T1", "")], [("T1", "id")]) := by decide +kernel
  obtain ⟨u, hu, hparts⟩ := TriplesMap.exists_of_map_eq_some hout
  obtain ⟨hfilter, hcells⟩ := Prod.mk.inj hparts
  obtain ⟨condition, hcondition, hcolumns⟩ := Option.map_eq_some_iff.mp hfilter
  have hblank : (some "T1", "") ∈ condition.columns := by
    rw [hcolumns]
    exact List.mem_cons_of_mem _ List.mem_cons_self
  obtain ⟨c, hc, he, -⟩ := h blankRule {} _ u condition hu hcondition _ hblank
  have hcell : c.cell ∈ [("T1", "id")] := hcells ▸ List.mem_map_of_mem hc
  have hname : "" = "id" :=
    (Prod.mk.inj he).2.trans (Prod.mk.inj (List.mem_singleton.mp hcell)).2
  exact absurd hname (by decide)

end TriplesSql
