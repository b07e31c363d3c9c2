import Mathlib.Data.List.Forall2
import Mathlib.Data.Prod.Basic
import TriplesSql.Command.Run
import TriplesSql.Proofs.Unfold.Recorded

/-!
# The registry of an unfolded rule

The term maps of a rule have different addresses, so what the registry has at one of them comes from
the reading of that term map alone.
-/

namespace TriplesSql

/-- The columns that references name, each once, in order of first appearance. -/
def namedColumns (references : List String) : List String :=
  ((references.map Text.unquote).filter (!·.isEmpty)).eraseDups

theorem PredicateObjectMap.pairwise_reads (m : PredicateObjectMap) (rule : String) (index : Nat)
    (baseAlias parentAlias : String) :
    (m.reads rule index baseAlias parentAlias).Pairwise fun r r' => r.address ≠ r'.address := by
  unfold reads termReads
  cases m.predicate? <;> cases m.object? <;> cases m.reference? <;> simp

theorem PredicateObjectMap.address_of_mem_reads {m : PredicateObjectMap} {rule : String}
    {index : Nat} {baseAlias parentAlias : String} {r : TermRead}
    (h : r ∈ m.reads rule index baseAlias parentAlias) :
    r.address.rank ≠ 0 ∧ r.address.index = index := by
  unfold reads termReads at h
  simp only [List.mem_append, Option.mem_toList, Option.map_eq_some_iff] at h
  rcases h with (⟨_, -, rfl⟩ | ⟨_, -, rfl⟩) | ⟨_, -, rfl⟩ <;>
    exact ⟨by simp [TermAddress.rank], rfl⟩

namespace TriplesMap

theorem pairwise_reads (t : TriplesMap) (s : Settings) :
    (t.reads s).Pairwise fun r r' => r.address ≠ r'.address := by
  unfold reads readsUpTo
  refine List.pairwise_cons.mpr ⟨?_, List.pairwise_flatMap.mpr ⟨?_, ?_⟩⟩
  · intro r hr he
    obtain ⟨⟨m, index⟩, -, hr⟩ := List.mem_flatMap.mp hr
    have hrank := (PredicateObjectMap.address_of_mem_reads hr).1
    rw [← he] at hrank
    exact hrank rfl
  · intro ⟨m, index⟩ _
    exact m.pairwise_reads t.id index _ _
  · -- the numbers of predicate-object maps grow along the list
    have hlt : ((t.predicateObjects.take t.predicateObjects.length).zipIdx.map
        Prod.snd).Pairwise (· < ·) := by
      rw [List.zipIdx_map_snd]
      exact List.pairwise_lt_range'
    refine (List.pairwise_map.mp hlt).imp fun hi r hr r' hr' he => ?_
    have hr := (PredicateObjectMap.address_of_mem_reads hr).2
    have hr' := (PredicateObjectMap.address_of_mem_reads hr').2
    rw [he] at hr
    omega

end TriplesMap

theorem filter_columns (r : TermRead) (a : TermAddress) :
    r.columns.filter (·.address = a) = if r.address = a then r.columns else [] := by
  unfold TermRead.columns
  rw [List.filter_map]
  by_cases ha : r.address = a
  · simp [ha, Function.comp_def]
  · simp [ha, Function.comp_def]

theorem filter_flatMap_columns {rs : List TermRead}
    (h : rs.Pairwise fun r r' => r.address ≠ r'.address) {r : TermRead} (hr : r ∈ rs) :
    (rs.flatMap TermRead.columns).filter (·.address = r.address) = r.columns := by
  rw [List.filter_flatMap]
  obtain ⟨before, after, rfl⟩ := List.append_of_mem hr
  rw [List.pairwise_append] at h
  obtain ⟨-, hafter, hbefore⟩ := h
  have hb : before.flatMap (fun x => x.columns.filter (·.address = r.address)) = [] := by
    rw [List.flatMap_eq_nil_iff]
    intro x hx
    rw [filter_columns, if_neg (hbefore x hx r List.mem_cons_self)]
  have ha : after.flatMap (fun x => x.columns.filter (·.address = r.address)) = [] := by
    rw [List.flatMap_eq_nil_iff]
    intro x hx
    rw [filter_columns, if_neg (Ne.symm ((List.pairwise_cons.mp hafter).1 x hx))]
  rw [List.flatMap_append, List.flatMap_cons, hb, ha, filter_columns, if_pos rfl]
  simp

theorem filterMap_cell? (r : TermRead) :
    r.columns.filterMap ColumnRead.cell?
      = ((r.references.map Text.unquote).filter (!·.isEmpty)).map fun column =>
        (r.source, column) := by
  obtain ⟨a, references, source⟩ := r
  unfold TermRead.columns
  induction references with
  | nil => rfl
  | cons x references ih =>
    rw [List.map_cons, List.map_cons, List.filter_cons]
    cases hx : (Text.unquote x).isEmpty with
    | true =>
      have hnone : ColumnRead.cell? ⟨a, source, x⟩ = none := by
        simp [ColumnRead.cell?, OutputColumn.ofReference?, hx]
      rw [List.filterMap_cons_none hnone]
      exact ih
    | false =>
      have hsome : ColumnRead.cell? ⟨a, source, x⟩ = some (source, Text.unquote x) := by
        simp [ColumnRead.cell?, OutputColumn.ofReference?, hx, OutputColumn.cell]
      rw [List.filterMap_cons_some hsome]
      exact congrArg _ ih

theorem cellsAt_flatMap {rs : List TermRead} (h : rs.Pairwise fun r r' => r.address ≠ r'.address)
    {r : TermRead} (hr : r ∈ rs) :
    cellsAt r.address (rs.flatMap TermRead.columns)
      = (namedColumns r.references).map fun column => (r.source, column) := by
  rw [cellsAt, filter_flatMap_columns h hr, filterMap_cell?, namedColumns]
  exact eraseDups_map_of_injective (Prod.mk_right_injective r.source) _

theorem Query.Labelled.outputNamed?_eq_some {q : Query} (h : q.Labelled) {c : OutputColumn}
    (hc : c ∈ q.outputs) {label : String} (hl : c.label = some label) :
    q.outputNamed? label = some c := by
  cases hf : q.outputNamed? label with
  | none => exact absurd hl (label_ne_of_outputNamed?_none hf hc)
  | some d =>
    obtain ⟨hd, hdl⟩ := mem_of_outputNamed? hf
    have hnodup : (q.outputs.map (·.label)).Nodup := List.pairwise_map.mpr h.distinct
    rw [List.inj_on_of_nodup_map hnodup hd hc (hdl.trans hl.symm)]

namespace Recorded

variable {rs : List TermRead} {p : Progress}

theorem terms_eq (h : Recorded (rs.flatMap TermRead.columns) p)
    (hrs : rs.Pairwise fun r r' => r.address ≠ r'.address) {r : TermRead} (hr : r ∈ rs) :
    p.registry.terms[r.address]? = if namedColumns r.references = [] then none
      else some ((namedColumns r.references).map fun column =>
        p.query.nameOf (r.source, column)) := by
  rw [h.names, cellsAt_flatMap hrs hr, List.map_map]
  simp only [List.map_eq_nil_iff]
  rfl

theorem outputNamed?_nameOf (h : Recorded (rs.flatMap TermRead.columns) p)
    (hrs : rs.Pairwise fun r r' => r.address ≠ r'.address) {r : TermRead} (hr : r ∈ rs)
    {column : String} (hc : column ∈ namedColumns r.references) :
    p.query.outputNamed? (p.query.nameOf (r.source, column))
      = some ⟨r.source, column, some (p.query.nameOf (r.source, column))⟩ := by
  have hcell : (r.source, column) ∈ cellsAt r.address (rs.flatMap TermRead.columns) := by
    rw [cellsAt_flatMap hrs hr]
    exact List.mem_map_of_mem hc
  have hmem := h.settled.outputOf_mem_iff.mpr (h.mem_cells hcell)
  exact h.labelled.outputNamed?_eq_some hmem rfl

theorem exists_read (h : Recorded (rs.flatMap TermRead.columns) p)
    (hrs : rs.Pairwise fun r r' => r.address ≠ r'.address) {c : OutputColumn}
    (hc : c ∈ p.query.outputs) :
    ∃ r ∈ rs, r.source = c.table ∧ c.column ∈ namedColumns r.references := by
  have hcell : c.cell ∈ p.query.outputs.map OutputColumn.cell := List.mem_map_of_mem hc
  rw [h.cells, List.mem_eraseDups, List.mem_filterMap] at hcell
  obtain ⟨x, hx, hxc⟩ := hcell
  obtain ⟨r, hr, hxr⟩ := List.mem_flatMap.mp hx
  have hat : c.cell ∈ cellsAt r.address (rs.flatMap TermRead.columns) := by
    rw [cellsAt, filter_flatMap_columns hrs hr, List.mem_eraseDups]
    exact List.mem_filterMap.mpr ⟨x, hxr, hxc⟩
  rw [cellsAt_flatMap hrs hr] at hat
  obtain ⟨column, hcolumn, heq⟩ := List.mem_map.mp hat
  obtain ⟨hs, rfl⟩ := Prod.mk.inj heq
  exact ⟨r, hr, hs, hcolumn⟩

end Recorded

theorem TriplesMap.source_of_mem_readsUpTo {t : TriplesMap} {s : Settings} {n : Nat} {r : TermRead}
    (hr : r ∈ t.readsUpTo s n) :
    (r.source = baseAlias s ∧ ∀ rule index, r.address ≠ .reference rule index)
    ∨ ∃ index m x, index < n ∧ t.predicateObjects[index]? = some m ∧ m.reference? = some x
      ∧ r.address = .reference t.id index ∧ r.source = t.parentAlias s index := by
  rcases List.mem_cons.mp hr with rfl | hr
  · exact Or.inl ⟨rfl, by simp⟩
  · obtain ⟨⟨m, index⟩, hm, hr⟩ := List.mem_flatMap.mp hr
    rw [List.mk_mem_zipIdx_iff_getElem?, List.getElem?_take, Option.ite_none_right_eq_some] at hm
    simp only [PredicateObjectMap.reads, PredicateObjectMap.termReads, List.mem_append,
      Option.mem_toList, Option.map_eq_some_iff] at hr
    rcases hr with (⟨_, -, rfl⟩ | ⟨_, -, rfl⟩) | ⟨x, hx, rfl⟩
    · exact Or.inl ⟨rfl, by simp⟩
    · exact Or.inl ⟨rfl, by simp⟩
    · exact Or.inr ⟨index, m, x, hm.1, hm.2, hx, rfl, rfl⟩

theorem Progress.Reached.source_of_mem_reads [SqlReader] {t : TriplesMap} {s : Settings}
    {p : Progress} (h : p.Reached t s t.predicateObjects.length) {r : TermRead}
    (hr : r ∈ t.reads s) :
    ((∀ rule index, r.address ≠ .reference rule index)
      ∧ p.query.base?.bind (·.label) = some r.source)
    ∨ ∃ index, r.address = .reference t.id index
      ∧ p.registry.references[r.address]? = some r.source
      ∧ ∃ item ∈ p.query.joins, item.label = some r.source := by
  rcases TriplesMap.source_of_mem_readsUpTo hr with ⟨hs, ha⟩ | ⟨index, m, x, hi, hm, hx, ha, hs⟩
  · obtain ⟨source, -, hbase⟩ := h.base
    refine Or.inl ⟨ha, ?_⟩
    rw [Query.base?, List.head?_eq_getElem?, hbase, hs]
    rfl
  · obtain ⟨l, source, -, -, hitem⟩ :=
      h.joins _ _ _ (TriplesMap.getElem?_joinsUpTo hi hm hx)
    refine Or.inr ⟨index, ha, ?_, _, List.mem_filter.mpr ⟨List.mem_of_getElem? hitem, rfl⟩, ?_⟩
    · rw [ha, hs]
      exact h.reference_eq hi hm hx
    · rw [hs]
      rfl

/-- Under renaming the registry of a rule is true of its query. At the address of each term map that
is read are labels of output columns, one for each column that its references name and in their
order; each output column is on record in such a place; and term maps are read from the base, but
that of a reference from the join that has its name. -/
theorem registry_of_unfold [SqlReader] (s : Settings) (hs : s.onCollision = .rename)
    (t : TriplesMap) (subject : Option String) (u : Unfolded)
    (h : (t.unfold s subject).value = .ok (some u)) :
    (∀ r ∈ t.reads s, ∃ labels : List String,
      u.registry.terms[r.address]? = (if labels = [] then none else some labels)
      ∧ List.Forall₂
        (fun column label => u.query.outputNamed? label = some ⟨r.source, column, some label⟩)
        (namedColumns r.references) labels)
    ∧ (∀ c ∈ u.query.outputs, ∃ label, c.label = some label
      ∧ ∃ r ∈ t.reads s, ∃ (labels : List String) (i : Nat),
        u.registry.terms[r.address]? = some labels ∧ labels[i]? = some label
        ∧ r.source = c.table ∧ (namedColumns r.references)[i]? = some c.column)
    ∧ ∀ r ∈ t.reads s, ((∀ rule index, r.address ≠ .reference rule index)
        ∧ u.query.base?.bind (·.label) = some r.source)
      ∨ ∃ index, r.address = .reference t.id index
        ∧ u.registry.references[r.address]? = some r.source
        ∧ ∃ item ∈ u.query.joins, item.label = some r.source := by
  obtain ⟨p, hp, hout, hsources, hreg⟩ := TriplesMap.unfold_eq_some h
  have hreached := TriplesMap.reached_of_unfoldAll hp
  have hrec : Recorded ((t.reads s).flatMap TermRead.columns) p :=
    ((Recorded.start s.dialect []).foldl hs (t.reads s)).congr hreached.names
  have hreads := t.pairwise_reads s
  have hnamed : u.query.outputNamed? = p.query.outputNamed? := by
    funext label
    rw [Query.outputNamed?, hout]
    rfl
  rw [hreg, hout, hnamed, Query.base?, Query.joins, hsources]
  refine ⟨fun r hr => ?_, fun c hc => ?_, fun r hr => hreached.source_of_mem_reads hr⟩
  · refine ⟨(namedColumns r.references).map fun column => p.query.nameOf (r.source, column),
      ?_, ?_⟩
    · rw [hrec.terms_eq hreads hr]
      simp only [List.map_eq_nil_iff]
    · rw [List.forall₂_map_right_iff, List.forall₂_same]
      exact fun column hcolumn => hrec.outputNamed?_nameOf hreads hr hcolumn
  · obtain ⟨r, hr, hsource, hcolumn⟩ := hrec.exists_read hreads hc
    obtain ⟨i, hi⟩ := List.mem_iff_getElem?.mp hcolumn
    have hne : namedColumns r.references ≠ [] := List.ne_nil_of_mem hcolumn
    refine ⟨p.query.nameOf c.cell, congrArg OutputColumn.label (hrec.settled c hc), r, hr,
      (namedColumns r.references).map fun column => p.query.nameOf (r.source, column), i,
      ?_, ?_, hsource, hi⟩
    · rw [hrec.terms_eq hreads hr, if_neg hne]
    · rw [List.getElem?_map, hi, hsource]
      rfl

/-- A rule that reads one column under two spellings and for two term maps, and joins a parent. -/
def sharingRule : TriplesMap where
  id := "Emp"
  table := .tableName "employee"
  subject := .template "\x7bid\x7d/\x7b\"id\"\x7d"
  predicateObjects := [⟨[], [.column "id"], []⟩,
    ⟨[], [], [⟨"Dept", [⟨"dept", "id"⟩], some (.tableName "department"), some (.column "id")⟩]⟩]

theorem registry_sharingRule : ∃ u, (sharingRule.unfold {} none).value = .ok (some u)
    ∧ u.query.outputs.map (·.label) = [some "T1_id", some "T2_id"]
    ∧ (∀ r ∈ sharingRule.reads {}, ∃ labels : List String,
      u.registry.terms[r.address]? = (if labels = [] then none else some labels)
      ∧ List.Forall₂
        (fun column label => u.query.outputNamed? label = some ⟨r.source, column, some label⟩)
        (namedColumns r.references) labels)
    ∧ (∀ c ∈ u.query.outputs, ∃ label, c.label = some label
      ∧ ∃ r ∈ sharingRule.reads {}, ∃ (labels : List String) (i : Nat),
        u.registry.terms[r.address]? = some labels ∧ labels[i]? = some label
        ∧ r.source = c.table ∧ (namedColumns r.references)[i]? = some c.column)
    ∧ ∀ r ∈ sharingRule.reads {}, ((∀ rule index, r.address ≠ .reference rule index)
        ∧ u.query.base?.bind (·.label) = some r.source)
      ∨ ∃ index, r.address = .reference "Emp" index
        ∧ u.registry.references[r.address]? = some r.source
        ∧ ∃ item ∈ u.query.joins, item.label = some r.source := by
  have hout : (sharingRule.unfold {} none).value.toOption.join.map
      (fun u => u.query.outputs.map (·.label)) = some [some "T1_id", some "T2_id"] := by
    decide +kernel
  obtain ⟨u, hu, hlabels⟩ := TriplesMap.exists_of_map_eq_some hout
  exact ⟨u, hu, hlabels, registry_of_unfold {} rfl sharingRule none u hu⟩

end TriplesSql
