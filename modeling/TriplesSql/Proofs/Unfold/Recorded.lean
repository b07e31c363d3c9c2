import Mathlib.Data.List.Nodup
import TriplesSql.Proofs.Lists
import TriplesSql.Proofs.Unfold.Labels

/-!
# Names on record

Under renaming the registry has, for each term map that was read, the labels of the columns that its
references name, and each output column is on record for some term map. The reading of one column
keeps this; the three places that drop repetitions, the references of a term map, the names on
record and the output columns, agree since a column has one label and a label has one column.
-/

namespace TriplesSql

def OutputColumn.cell (c : OutputColumn) : String × String := (c.table, c.column)

structure ColumnRead where
  address : TermAddress
  source : String
  reference : String

def ColumnRead.cell? (r : ColumnRead) : Option (String × String) :=
  (OutputColumn.ofReference? r.reference r.source).map OutputColumn.cell

def TermRead.columns (r : TermRead) : List ColumnRead :=
  r.references.map fun reference => ⟨r.address, r.source, reference⟩

/-- The columns that are read for a term map, each once, in order of first appearance. -/
def cellsAt (a : TermAddress) (reads : List ColumnRead) : List (String × String) :=
  ((reads.filter (·.address = a)).filterMap ColumnRead.cell?).eraseDups

namespace Query

def nameOf (q : Query) (cell : String × String) : String :=
  (q.nameFor .rename ⟨cell.1, cell.2, none⟩).value

def outputOf (q : Query) (cell : String × String) : OutputColumn :=
  ⟨cell.1, cell.2, some (q.nameOf cell)⟩

theorem label_eq_outputOf (q : Query) (c : OutputColumn) : q.label c = q.outputOf c.cell := rfl

section step

variable {q : Query} (h : q.Settled)
include h

theorem Settled.outputOf_mem_iff {cell : String × String} :
    q.outputOf cell ∈ q.outputs ↔ cell ∈ q.outputs.map OutputColumn.cell := by
  constructor
  · intro hm
    exact List.mem_map.mpr ⟨_, hm, rfl⟩
  · intro hm
    obtain ⟨c, hc, rfl⟩ := List.mem_map.mp hm
    rw [← label_eq_outputOf, ← h c hc]
    exact hc

theorem Settled.cells_addOutput (cell : String × String) :
    (q.addOutput (q.outputOf cell)).outputs.map OutputColumn.cell
      = if cell ∈ q.outputs.map OutputColumn.cell then q.outputs.map OutputColumn.cell
        else q.outputs.map OutputColumn.cell ++ [cell] := by
  rw [outputs_addOutput]
  by_cases hm : cell ∈ q.outputs.map OutputColumn.cell
  · rw [if_pos hm, if_pos (h.outputOf_mem_iff.mpr hm)]
  · rw [if_neg hm, if_neg (fun hc => hm (h.outputOf_mem_iff.mp hc)), List.map_append]
    rfl

theorem Settled.nameOf_addOutput {cell : String × String}
    (hm : cell ∈ q.outputs.map OutputColumn.cell) (new : String × String) :
    (q.addOutput (q.outputOf new)).nameOf cell = q.nameOf cell := by
  rcases q.addOutput_label ⟨new.1, new.2, none⟩ with ⟨-, he⟩ | ⟨-, he⟩
  · exact congrArg (nameOf · cell) he
  · have hl : (q.addOutput (q.outputOf new)).outputOf cell = q.outputOf cell :=
      label_append_of_mem (congrArg outputs he) (c := ⟨cell.1, cell.2, none⟩)
        (h.outputOf_mem_iff.mpr hm)
    exact Option.some.inj (congrArg OutputColumn.label hl)

end step

theorem nameOf_addOutput_self (q : Query) (cell : String × String) :
    (q.addOutput (q.outputOf cell)).nameOf cell = q.nameOf cell := by
  rcases q.addOutput_label ⟨cell.1, cell.2, none⟩ with ⟨-, he⟩ | ⟨hnew, he⟩
  · exact congrArg (nameOf · cell) he
  · have hl : (q.addOutput (q.outputOf cell)).outputOf cell = q.outputOf cell :=
      label_append_self (congrArg outputs he) hnew
    exact Option.some.inj (congrArg OutputColumn.label hl)

theorem Labelled.nameOf_inj {q : Query} (hl : q.Labelled) (h : q.Settled) {a b : String × String}
    (ha : a ∈ q.outputs.map OutputColumn.cell) (hb : b ∈ q.outputs.map OutputColumn.cell)
    (hn : q.nameOf a = q.nameOf b) : a = b := by
  have hnodup : (q.outputs.map (·.label)).Nodup := List.pairwise_map.mpr hl.distinct
  have heq := List.inj_on_of_nodup_map hnodup (h.outputOf_mem_iff.mpr ha)
    (h.outputOf_mem_iff.mpr hb) (congrArg some hn)
  exact congrArg OutputColumn.cell heq

end Query

/-- What the reading of one column keeps is kept by the readings of term maps, which read their
columns one after the other. -/
theorem Progress.foldl_columns {P : List ColumnRead → Progress → Prop} {s : Settings}
    (step : ∀ reads p (r : ColumnRead), P reads p →
      P (reads ++ [r]) (p.addColumn s r.address r.source r.reference))
    (rs : List TermRead) {reads : List ColumnRead} {p : Progress} (h : P reads p) :
    P (reads ++ rs.flatMap TermRead.columns) (rs.foldl (projectRead s) p) := by
  have one : ∀ (a : TermAddress) (source : String) (references : List String)
      (reads : List ColumnRead) (p : Progress), P reads p →
      P (reads ++ references.map fun x => ⟨a, source, x⟩)
        (references.foldl (addColumn s a source) p) := by
    intro a source references
    induction references with
    | nil =>
      intro reads p h
      rw [List.map_nil, List.append_nil]
      exact h
    | cons x references ih =>
      intro reads p h
      rw [List.map_cons, List.foldl_cons, List.append_cons]
      exact ih _ _ (step reads p ⟨a, source, x⟩ h)
  induction rs generalizing reads p with
  | nil =>
    rw [List.flatMap_nil, List.append_nil]
    exact h
  | cons r rs ih =>
    rw [List.flatMap_cons, List.foldl_cons, ← List.append_assoc]
    exact ih (one r.address r.source r.references reads p h)

theorem cellsAt_concat (a : TermAddress) (reads : List ColumnRead) (r : ColumnRead) :
    cellsAt a (reads ++ [r]) = if r.address = a then
      match r.cell? with
      | none => cellsAt a reads
      | some cell => if cell ∈ cellsAt a reads then cellsAt a reads else cellsAt a reads ++ [cell]
      else cellsAt a reads := by
  unfold cellsAt
  rw [List.filter_append, List.filterMap_append]
  by_cases ha : r.address = a
  · cases hc : r.cell? with
    | none => simp [ha, hc]
    | some cell =>
      simp only [List.filter_cons, ha, decide_true, if_true, List.filter_nil,
        List.filterMap_cons_some hc, List.filterMap_nil, eraseDups_concat, List.mem_eraseDups]
  · simp [ha]

/-- What holds of a state behind some readings. -/
structure Recorded (reads : List ColumnRead) (p : Progress) : Prop where
  labelled : p.query.Labelled
  settled : p.query.Settled
  cells : p.query.outputs.map OutputColumn.cell = (reads.filterMap ColumnRead.cell?).eraseDups
  names : ∀ a, p.registry.terms[a]? = if cellsAt a reads = [] then none
    else some ((cellsAt a reads).map p.query.nameOf)

namespace Recorded

variable {reads : List ColumnRead} {p : Progress}

theorem mem_cells (h : Recorded reads p) {a : TermAddress} {cell : String × String}
    (hc : cell ∈ cellsAt a reads) : cell ∈ p.query.outputs.map OutputColumn.cell := by
  rw [h.cells, List.mem_eraseDups]
  rw [cellsAt, List.mem_eraseDups] at hc
  exact (List.filter_sublist.filterMap _).subset hc

theorem getD_names (h : Recorded reads p) (a : TermAddress) :
    (p.registry.terms[a]?).getD [] = (cellsAt a reads).map p.query.nameOf := by
  rw [h.names a]
  split
  · next he => rw [he]; rfl
  · rfl

theorem nameOf_mem_iff (h : Recorded reads p) (a : TermAddress) (cell : String × String) :
    p.query.nameOf cell ∈ (cellsAt a reads).map p.query.nameOf ↔ cell ∈ cellsAt a reads := by
  constructor
  · intro hm
    obtain ⟨other, ho, hn⟩ := List.mem_map.mp hm
    -- both columns are output columns once this one is added, and keep their labels then
    have hcell := h.settled.cells_addOutput cell
    have hin : ∀ x, x ∈ p.query.outputs.map OutputColumn.cell ∨ x = cell →
        x ∈ (p.query.addOutput (p.query.outputOf cell)).outputs.map OutputColumn.cell := by
      intro x hx
      rw [hcell]
      split
      · next hm' => exact hx.elim id fun he => he ▸ hm'
      · exact List.mem_append.mpr (hx.imp id List.mem_singleton.mpr)
    have heq : other = cell := by
      refine (h.labelled.addOutput ⟨cell.1, cell.2, none⟩).nameOf_inj
        (h.settled.addOutput ⟨cell.1, cell.2, none⟩) (hin other (Or.inl (h.mem_cells ho)))
        (hin cell (Or.inr rfl)) ?_
      exact (h.settled.nameOf_addOutput (h.mem_cells ho) cell).trans
        (hn.trans (p.query.nameOf_addOutput_self cell).symm)
    exact heq ▸ ho
  · exact fun hm => List.mem_map.mpr ⟨cell, hm, rfl⟩

theorem skip (h : Recorded reads p) {r : ColumnRead} (hr : r.cell? = none) :
    Recorded (reads ++ [r]) p := by
  refine ⟨h.labelled, h.settled, ?_, fun a => ?_⟩
  · rw [h.cells, List.filterMap_append]
    simp [hr]
  · have hat : cellsAt a (reads ++ [r]) = cellsAt a reads := by
      rw [cellsAt_concat, hr]
      exact ite_self _
    rw [hat]
    exact h.names a

theorem add (h : Recorded reads p) {r : ColumnRead} {cell : String × String}
    (hr : r.cell? = some cell) {q : Progress}
    (hq : q.query = p.query.addOutput (p.query.outputOf cell))
    (hreg : q.registry = p.registry.recordTerm r.address (p.query.nameOf cell)) :
    Recorded (reads ++ [r]) q := by
  have hkeep : ∀ a, (cellsAt a reads).map (p.query.addOutput (p.query.outputOf cell)).nameOf
      = (cellsAt a reads).map p.query.nameOf := fun a =>
    List.map_congr_left fun other hm => h.settled.nameOf_addOutput (h.mem_cells hm) cell
  refine ⟨?_, ?_, ?_, fun a => ?_⟩
  · rw [hq]
    exact h.labelled.addOutput ⟨cell.1, cell.2, none⟩
  · rw [hq]
    exact h.settled.addOutput ⟨cell.1, cell.2, none⟩
  · rw [hq, h.settled.cells_addOutput, List.filterMap_append, List.filterMap_cons_some hr,
      List.filterMap_nil, eraseDups_concat, h.cells]
    simp only [List.mem_eraseDups]
  · rw [hq, hreg, Registry.terms_recordTerm, cellsAt_concat, hr]
    simp only [h.getD_names, h.nameOf_mem_iff]
    by_cases ha : r.address = a
    · subst ha
      simp only [if_true]
      by_cases hm : cell ∈ cellsAt r.address reads
      · simp only [if_pos hm, hkeep]
        exact h.names r.address
      · -- the label is new here as well, since no other column has it
        simp only [if_neg hm, List.map_append, hkeep, List.map_cons, List.map_nil,
          Query.nameOf_addOutput_self]
        simp
    · simp only [if_neg ha, hkeep]
      rw [← h.names a]
      split
      · rfl
      · rw [Std.ExtTreeMap.getElem?_insert, if_neg (by simpa using ha)]

theorem addColumn (h : Recorded reads p) {s : Settings} (hs : s.onCollision = .rename)
    (r : ColumnRead) :
    Recorded (reads ++ [r]) (p.addColumn s r.address r.source r.reference) := by
  cases hc : OutputColumn.ofReference? r.reference r.source with
  | none =>
    have hcell : r.cell? = none := by rw [ColumnRead.cell?, hc]; rfl
    rw [Progress.addColumn_of_none hc]
    exact h.skip hcell
  | some c =>
    have hcell : r.cell? = some c.cell := by rw [ColumnRead.cell?, hc]; rfl
    refine h.add hcell ?_ ?_
    · rw [Progress.addColumn_query hc, hs]
      rfl
    · rw [Progress.addColumn_registry hc, hs]
      rfl

theorem foldl (h : Recorded reads p) {s : Settings} (hs : s.onCollision = .rename)
    (rs : List TermRead) :
    Recorded (reads ++ rs.flatMap TermRead.columns) (rs.foldl (Progress.projectRead s) p) :=
  Progress.foldl_columns (fun _ _ r h => h.addColumn hs r) rs h

theorem start (d : Dialect) (events : List Event) : Recorded [] (Progress.start d events) where
  labelled := ⟨fun _ hc => absurd hc List.not_mem_nil, List.Pairwise.nil⟩
  settled := fun _ hc => absurd hc List.not_mem_nil
  cells := rfl
  names := fun _ => Std.ExtTreeMap.getElem?_empty

theorem congr {q : Progress} (h : Recorded reads p) (hq : q.SameNames p) : Recorded reads q := by
  have hname : q.query.nameOf = p.query.nameOf := by
    funext cell
    rw [Query.nameOf, Query.nameFor_congr hq.outputs]
    rfl
  constructor
  · exact h.labelled.congr hq.outputs
  · intro c hc
    rw [hq.outputs] at hc
    rw [Query.label, Query.nameFor_congr hq.outputs]
    exact h.settled c hc
  · rw [hq.outputs]
    exact h.cells
  · intro a
    rw [hq.terms, hname]
    exact h.names a

end Recorded

end TriplesSql
