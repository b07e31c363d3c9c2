import TriplesSql.Command.Run
import TriplesSql.Proofs.Unfold.Fidelity

/-!
# Columns that are read

Under both policies the output columns of a rule are the columns that its term maps need, each once,
in order of first appearance. Where names may be used twice the label of a column is its plain name,
so output columns are equal if their columns are; where they may not, this is part of what is on
record behind each reading.
-/

namespace TriplesSql

def OutputColumn.plain (cell : String × String) : OutputColumn :=
  ⟨cell.1, cell.2, some (outputName cell.1 cell.2)⟩

theorem OutputColumn.plain_injective : Function.Injective plain := fun _ _ h =>
  congrArg cell h

theorem Query.nameFor_keep (q : Query) (c : OutputColumn) :
    (q.nameFor .keep c).value = outputName c.table c.column := by
  by_cases ht : q.isTaken c (outputName c.table c.column) = true
  · simp only [nameFor, if_pos ht]
  · simp only [nameFor, if_neg ht]

def Progress.PlainlyRead (reads : List ColumnRead) (p : Progress) : Prop :=
  p.query.outputs = (reads.filterMap ColumnRead.cell?).eraseDups.map OutputColumn.plain

theorem Progress.PlainlyRead.addColumn {reads : List ColumnRead} {p : Progress}
    (h : p.PlainlyRead reads) {s : Settings} (hs : s.onCollision = .keep) (r : ColumnRead) :
    (p.addColumn s r.address r.source r.reference).PlainlyRead (reads ++ [r]) := by
  unfold PlainlyRead at h ⊢
  rw [List.filterMap_append]
  cases hc : OutputColumn.ofReference? r.reference r.source with
  | none =>
    have hcell : r.cell? = none := by rw [ColumnRead.cell?, hc]; rfl
    rw [addColumn_of_none hc, h, List.filterMap_cons_none hcell, List.filterMap_nil,
      List.append_nil]
  | some c =>
    have hcell : r.cell? = some c.cell := by rw [ColumnRead.cell?, hc]; rfl
    have hplain : { c with label := some (p.query.nameFor s.onCollision c).value }
        = OutputColumn.plain c.cell := by
      rw [hs, Query.nameFor_keep]
      rfl
    rw [addColumn_query hc, hplain, Query.outputs_addOutput, List.filterMap_cons_some hcell,
      List.filterMap_nil, eraseDups_concat, h]
    simp only [List.mem_map_of_injective OutputColumn.plain_injective, List.mem_eraseDups]
    split
    · rfl
    · rw [List.map_append]
      rfl

theorem Progress.plainlyRead_foldl {s : Settings} (hs : s.onCollision = .keep)
    (rs : List TermRead) :
    (rs.foldl (projectRead s) (start s.dialect [])).PlainlyRead (rs.flatMap TermRead.columns) := by
  have hstart : (start s.dialect []).PlainlyRead [] := rfl
  exact foldl_columns (P := fun reads p => p.PlainlyRead reads)
    (fun _ _ r h => h.addColumn hs r) rs hstart

theorem Progress.cells_foldl (s : Settings) (rs : List TermRead) :
    (rs.foldl (projectRead s) (start s.dialect [])).query.outputs.map OutputColumn.cell
      = ((rs.flatMap TermRead.columns).filterMap ColumnRead.cell?).eraseDups := by
  cases hs : s.onCollision with
  | rename => exact ((Recorded.start s.dialect []).foldl hs rs).cells
  | keep =>
    rw [plainlyRead_foldl hs rs, List.map_map]
    exact List.map_id _

/-- The output columns of a rule, whatever is done about names that are in use, are the columns that
its term maps read, each once, in order of first appearance; references that name nothing are passed
over. Term maps read from the base, but that of a reference from the join that has its name. -/
theorem cells_of_unfold [SqlReader] (s : Settings) (t : TriplesMap) (subject : Option String)
    (u : Unfolded) (h : (t.unfold s subject).value = .ok (some u)) :
    u.query.outputs.map OutputColumn.cell = ((t.reads s).flatMap fun r =>
      ((r.references.map Text.unquote).filter (!·.isEmpty)).map fun column =>
        (r.source, column)).eraseDups
    ∧ (u.query.outputs.map OutputColumn.cell).Nodup
    ∧ ∀ r ∈ t.reads s, ((∀ rule index, r.address ≠ .reference rule index)
        ∧ u.query.base?.bind (·.label) = some r.source)
      ∨ ∃ index, r.address = .reference t.id index
        ∧ u.registry.references[r.address]? = some r.source
        ∧ ∃ item ∈ u.query.joins, item.label = some r.source := by
  obtain ⟨p, hp, hout, hsources, hreg⟩ := TriplesMap.unfold_eq_some h
  have hreached := TriplesMap.reached_of_unfoldAll hp
  have hcells : u.query.outputs.map OutputColumn.cell
      = (((t.reads s).flatMap TermRead.columns).filterMap ColumnRead.cell?).eraseDups := by
    rw [hout, hreached.names.outputs]
    exact Progress.cells_foldl s (t.reads s)
  refine ⟨?_, ?_, fun r hr => ?_⟩
  · rw [hcells, List.filterMap_flatMap]
    simp only [filterMap_cell?]
  · rw [hcells]
    exact nodup_eraseDups _
  · rw [hreg, Query.base?, Query.joins, hsources]
    exact hreached.source_of_mem_reads hr

/-- Two columns may share a name, and a column that is read again is not selected again. -/
theorem cells_crowdedRule :
    ∃ u, (crowdedRule.unfold { onCollision := .keep } none).value = .ok (some u)
      ∧ u.query.outputs.map (·.label) = [some "T1_a_b", some "T1_a_b", some "T1_a_b_2"]
      ∧ u.query.outputs.map OutputColumn.cell = [("T1", "a b"), ("T1", "a_b"), ("T1", "a_b_2")]
      ∧ (u.query.outputs.map OutputColumn.cell).Nodup := by
  have hout : (crowdedRule.unfold { onCollision := .keep } none).value.toOption.join.map
      (fun u => u.query.outputs.map (·.label))
        = some [some "T1_a_b", some "T1_a_b", some "T1_a_b_2"] := by decide +kernel
  obtain ⟨u, hu, hlabels⟩ := TriplesMap.exists_of_map_eq_some hout
  obtain ⟨hcells, hnodup, -⟩ :=
    cells_of_unfold { onCollision := .keep } crowdedRule none u hu
  exact ⟨u, hu, hlabels, hcells.trans (by decide +kernel), hnodup⟩

end TriplesSql
