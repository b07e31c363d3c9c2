import TriplesSql.Proofs.Unfold.Joins

/-!
# What the work on a rule does

The output columns and the names of term maps come about as if the term maps were read one after the
other, since row sources have no part in them; the row sources are the table of the rule and the
parents, named in their order, and the registry binds their addresses to these names.
-/

namespace TriplesSql

namespace Progress

/-- Two states agree on the output columns and on the names of term maps. -/
structure SameNames (p q : Progress) : Prop where
  outputs : p.query.outputs = q.query.outputs
  terms : p.registry.terms = q.registry.terms

theorem SameNames.trans {p q r : Progress} (h : p.SameNames q) (h' : q.SameNames r) :
    p.SameNames r :=
  ⟨h.outputs.trans h'.outputs, h.terms.trans h'.terms⟩

theorem addColumn_sameNames {p q : Progress} (h : p.SameNames q) (s : Settings) (a : TermAddress)
    (table reference : String) :
    (p.addColumn s a table reference).SameNames (q.addColumn s a table reference) := by
  cases hc : OutputColumn.ofReference? reference table with
  | none =>
    rw [addColumn_of_none hc, addColumn_of_none hc]
    exact h
  | some c =>
    have hn := Query.nameFor_congr h.outputs
    constructor
    · simp only [addColumn_query hc, Query.outputs_addOutput, h.outputs, hn]
    · simp only [addColumn_registry hc, Registry.terms_recordTerm, h.terms, hn]

theorem project_sameNames {p q : Progress} (h : p.SameNames q) (s : Settings) (a : TermAddress)
    (references : List String) (table : String) :
    (p.project s a references table).SameNames (q.project s a references table) := by
  apply List.foldl_rel h
  intro reference _ p q hpq
  exact addColumn_sameNames hpq s a table reference

theorem foldl_sameNames {p q : Progress} (h : p.SameNames q) (s : Settings)
    (reads : List TermRead) :
    (reads.foldl (projectRead s) p).SameNames (reads.foldl (projectRead s) q) := by
  apply List.foldl_rel h
  intro r _ p q hpq
  exact project_sameNames hpq s r.address r.references r.source

/-- Two states agree on all but the output columns, the names of term maps and the events. -/
structure SameSources (p q : Progress) : Prop where
  sources : p.query.sources = q.query.sources
  filter : p.query.filter = q.query.filter
  dialect : p.query.dialect = q.query.dialect
  references : p.registry.references = q.registry.references
  predicateObjects : p.registry.predicateObjects = q.registry.predicateObjects
  tables : p.registry.tables = q.registry.tables

theorem SameSources.refl (p : Progress) : p.SameSources p := ⟨rfl, rfl, rfl, rfl, rfl, rfl⟩

theorem SameSources.trans {p q r : Progress} (h : p.SameSources q) (h' : q.SameSources r) :
    p.SameSources r :=
  ⟨h.sources.trans h'.sources, h.filter.trans h'.filter, h.dialect.trans h'.dialect,
    h.references.trans h'.references, h.predicateObjects.trans h'.predicateObjects,
    h.tables.trans h'.tables⟩

theorem addColumn_sameSources (p : Progress) (s : Settings) (a : TermAddress)
    (table reference : String) : (p.addColumn s a table reference).SameSources p := by
  cases hc : OutputColumn.ofReference? reference table with
  | none =>
    rw [addColumn_of_none hc]
    exact SameSources.refl p
  | some c => constructor <;> simp [addColumn_query hc, addColumn_registry hc]

theorem project_sameSources (p : Progress) (s : Settings) (a : TermAddress)
    (references : List String) (table : String) :
    (p.project s a references table).SameSources p := by
  refine List.foldlRecOn (motive := (SameSources · p)) references _ (SameSources.refl p) ?_
  intro q hq reference _
  exact (addColumn_sameSources q s a table reference).trans hq

theorem foldl_sameSources (p : Progress) (s : Settings) (reads : List TermRead) :
    (reads.foldl (projectRead s) p).SameSources p := by
  refine List.foldlRecOn (motive := (SameSources · p)) reads _ (SameSources.refl p) ?_
  intro q hq r _
  exact (project_sameSources q s r.address r.references r.source).trans hq

section withJoin

variable [SqlReader] {p : Progress} {s : Settings} {rule : String} {index : Nat} {r : RefObjectMap}
  {l : LogicalTable} {source : RowSource} {childAlias : String}

theorem withParent_sameSources : ((p.withParent s rule index r l).projectRead s
    ⟨.reference rule index, r.columns, p.nextSource s⟩).SameSources
      (p.withParent s rule index r l) :=
  project_sameSources _ s (.reference rule index) r.columns (p.nextSource s)

@[simp]
theorem sources_withJoin : (p.withJoin s rule index r l source childAlias).query.sources
    = p.query.sources ++ [r.joined source childAlias (p.nextSource s)] :=
  congrArg (· ++ _) withParent_sameSources.sources

@[simp]
theorem filter_withJoin : (p.withJoin s rule index r l source childAlias).query.filter
    = p.query.filter :=
  withParent_sameSources.filter

@[simp]
theorem dialect_withJoin : (p.withJoin s rule index r l source childAlias).query.dialect
    = p.query.dialect :=
  withParent_sameSources.dialect

@[simp]
theorem references_withJoin : (p.withJoin s rule index r l source childAlias).registry.references
    = p.registry.references.insert (.reference rule index) (p.nextSource s) :=
  withParent_sameSources.references

@[simp]
theorem predicateObjects_withJoin :
    (p.withJoin s rule index r l source childAlias).registry.predicateObjects
      = p.registry.predicateObjects.insert ⟨rule, index⟩ (p.nextSource s) :=
  withParent_sameSources.predicateObjects

@[simp]
theorem tables_withJoin : (p.withJoin s rule index r l source childAlias).registry.tables
    = p.registry.tables :=
  withParent_sameSources.tables

theorem withJoin_sameNames : (p.withJoin s rule index r l source childAlias).SameNames
    (p.projectRead s ⟨.reference rule index, r.columns, p.nextSource s⟩) := by
  have hstart : (p.withParent s rule index r l).SameNames p := ⟨rfl, rfl⟩
  have hread := project_sameNames hstart s (.reference rule index) r.columns (p.nextSource s)
  exact ⟨hread.outputs, hread.terms⟩

end withJoin

/-- What holds at the start of a list and is kept by every step holds at its end. -/
theorem foldlM_zipIdx_ok {α σ ε : Type} {f : σ → α × Nat → Except ε σ} {P : Nat → σ → Prop}
    {xs : List α}
    (step : ∀ n x p q, xs[n]? = some x → P n p → f p (x, n) = .ok q → P (n + 1) q)
    {p q : σ} (start : P 0 p) (h : xs.zipIdx.foldlM f p = .ok q) : P xs.length q := by
  -- the induction is on the rest of the list, which begins at position `n`
  have rest : ∀ (ys : List α) (n : Nat) (p : σ), xs.drop n = ys → P n p →
      (ys.zipIdx n).foldlM f p = .ok q → P (n + ys.length) q := by
    intro ys
    induction ys with
    | nil =>
      intro n p _ hp hq
      obtain rfl : p = q := Except.ok.inj hq
      exact hp
    | cons y ys ih =>
      intro n p hd hp hq
      rw [List.zipIdx_cons, List.foldlM_cons, bind_eq_ok_iff] at hq
      obtain ⟨mid, hm, hr⟩ := hq
      have hy : xs[n]? = some y := by
        rw [← List.head?_drop, hd, List.head?_cons]
      have ht : xs.drop (n + 1) = ys := by
        rw [← List.drop_drop, hd, List.drop_succ_cons, List.drop_zero]
      have hlen := ih (n + 1) mid ht (step n y p mid hy hp hm) hr
      rw [List.length_cons]
      rwa [Nat.add_assoc, Nat.add_comm 1] at hlen
  have hend := rest xs 0 p (List.drop_zero ..) start h
  rwa [Nat.zero_add] at hend

def joinLabel (s : Settings) (place : Nat) : String := sourceName s.aliasPrefix (place + 2)

variable [SqlReader]

/-- What holds of a state behind the first `n` predicate-object maps of a rule. -/
structure Reached (t : TriplesMap) (s : Settings) (n : Nat) (p : Progress) : Prop where
  length : p.query.sources.length = t.joinsBefore n + 1
  base : ∃ source, (t.table.resolve s.dialect).value = some source
    ∧ p.query.sources[0]? = some (.base source (TriplesMap.baseAlias s))
  joins : ∀ j i r, (t.joinsUpTo n)[j]? = some (i, r) → ∃ l source, r.parentTable = some l
    ∧ (l.resolve s.dialect).value = some source
    ∧ p.query.sources[j + 1]? = some (r.joined source (TriplesMap.baseAlias s) (joinLabel s j))
  references : Binds p.registry.references (.reference t.id) (joinLabel s)
    ((t.joinsUpTo n).map Prod.fst)
  predicateObjects : Binds p.registry.predicateObjects (⟨t.id, ·⟩) (joinLabel s)
    ((t.joinsUpTo n).map Prod.fst)
  tables : ∀ rule label,
    p.registry.tables[rule]? = some label ↔ rule = t.id ∧ label = TriplesMap.baseAlias s
  names : p.SameNames ((t.readsUpTo s n).foldl (projectRead s) (start s.dialect []))

variable {t : TriplesMap} {s : Settings} {n : Nat} {p : Progress}

theorem Reached.nextSource_eq (h : p.Reached t s n) : p.nextSource s = t.parentAlias s n := by
  rw [nextSource, h.length, TriplesMap.parentAlias]

theorem reached_addBase {events : List Event} (h : (start s.dialect events).addBase s t = .ok p) :
    p.Reached t s 0 := by
  obtain ⟨source, hsource, rfl⟩ := addBase_eq_ok_iff.mp h
  have hs := foldl_sameSources ((start s.dialect events).withBase s t source) s
    [⟨.subject t.id, t.subject.columns, TriplesMap.baseAlias s⟩]
  constructor
  · exact congrArg List.length hs.sources
  · exact ⟨source, hsource, congrArg (·[0]?) hs.sources⟩
  · intro j i r hj
    cases hj
  · rw [TriplesMap.joinsUpTo]
    exact hs.references ▸ Binds.empty _ _
  · rw [TriplesMap.joinsUpTo]
    exact hs.predicateObjects ▸ Binds.empty _ _
  · intro rule label
    have htables := congrArg (·[rule]?) hs.tables
    refine (Eq.congr_left htables).trans ?_
    change (((∅ : Std.ExtTreeMap String String).insert t.id (TriplesMap.baseAlias s))[rule]?
      = some label) ↔ _
    rw [Std.ExtTreeMap.getElem?_insert]
    by_cases hrule : t.id = rule
    · simp [hrule, eq_comm]
    · simp [hrule, Ne.symm hrule]
  · have hstart : ((start s.dialect events).withBase s t source).SameNames (start s.dialect []) :=
      ⟨rfl, rfl⟩
    exact foldl_sameNames hstart s [⟨.subject t.id, t.subject.columns, TriplesMap.baseAlias s⟩]

theorem Reached.withTerms (h : p.Reached t s n) (m : PredicateObjectMap) (baseAlias : String) :
    (p.withTerms s t.id n m baseAlias).SameSources p
      ∧ (p.withTerms s t.id n m baseAlias).SameNames
        ((t.readsUpTo s n ++ m.termReads t.id n baseAlias).foldl (projectRead s)
          (start s.dialect [])) := by
  rw [withTerms_eq, List.foldl_append]
  exact ⟨foldl_sameSources p s _, foldl_sameNames h.names s _⟩

theorem Reached.addTerms {m : PredicateObjectMap} (h : p.Reached t s n)
    (hm : t.predicateObjects[n]? = some m) (hr : m.reference? = none) :
    (p.withTerms s t.id n m (TriplesMap.baseAlias s)).Reached t s (n + 1) := by
  obtain ⟨hs, hn⟩ := h.withTerms m (TriplesMap.baseAlias s)
  have hreads := TriplesMap.readsUpTo_succ (s := s) hm
  have hcount := TriplesMap.joinsBefore_succ hm
  have hjoins := TriplesMap.joinsUpTo_succ hm
  simp only [PredicateObjectMap.reads, hr, Option.map_none, Option.toList_none,
    List.append_nil] at hreads hjoins
  simp only [hr, Option.isSome_none, Bool.false_eq_true, if_false, Nat.add_zero] at hcount
  constructor
  · rw [hs.sources, hcount]
    exact h.length
  · rw [hs.sources]
    exact h.base
  · rw [hs.sources, hjoins]
    exact h.joins
  · rw [hs.references, hjoins]
    exact h.references
  · rw [hs.predicateObjects, hjoins]
    exact h.predicateObjects
  · rw [hs.tables]
    exact h.tables
  · rw [hreads]
    exact hn

theorem Reached.addJoin {m : PredicateObjectMap} {r : RefObjectMap} (h : p.Reached t s n)
    (hm : t.predicateObjects[n]? = some m) (hr : m.reference? = some r) {l : LogicalTable}
    {source : RowSource} (hl : r.parentTable = some l)
    (hsource : (l.resolve s.dialect).value = some source) :
    ((p.withTerms s t.id n m (TriplesMap.baseAlias s)).withJoin s t.id n r l source
      (TriplesMap.baseAlias s)).Reached t s (n + 1) := by
  obtain ⟨hs, hn⟩ := h.withTerms m (TriplesMap.baseAlias s)
  have hreads := TriplesMap.readsUpTo_succ (s := s) hm
  have hcount := TriplesMap.joinsBefore_succ hm
  have hjoins := TriplesMap.joinsUpTo_succ hm
  have hnext : (p.withTerms s t.id n m (TriplesMap.baseAlias s)).nextSource s
      = t.parentAlias s n := by
    rw [nextSource, hs.sources]
    exact h.nextSource_eq
  have hplace : t.parentAlias s n = joinLabel s ((t.joinsUpTo n).map Prod.fst).length := by
    rw [List.length_map, t.length_joinsUpTo]
    rfl
  have hnew : n ∉ (t.joinsUpTo n).map Prod.fst := by
    intro hmem
    obtain ⟨e, he, hen⟩ := List.mem_map.mp hmem
    have hlt := TriplesMap.lt_of_mem_joinsUpTo he
    omega
  simp only [PredicateObjectMap.reads, hr, Option.map_some, Option.toList_some,
    ← List.append_assoc] at hreads hjoins
  simp only [hr, Option.isSome_some, if_true] at hcount
  constructor
  · simp [hs.sources, h.length, hcount]
  · obtain ⟨first, hfirst, hget⟩ := h.base
    refine ⟨first, hfirst, ?_⟩
    rw [sources_withJoin, hs.sources, List.getElem?_append_left (by rw [h.length]; omega)]
    exact hget
  · intro j i r' hj
    simp only [sources_withJoin, hs.sources, hnext]
    rw [hjoins, getElem?_concat_eq_some_iff, t.length_joinsUpTo] at hj
    rcases hj with hj | ⟨rfl, he⟩
    · obtain ⟨l', source', hl', hsource', hget⟩ := h.joins j i r' hj
      exact ⟨l', source', hl', hsource', getElem?_concat_eq_some_iff.mpr (Or.inl hget)⟩
    · obtain ⟨rfl, rfl⟩ := Prod.mk.inj he
      exact ⟨l, source, hl, hsource, getElem?_concat_eq_some_iff.mpr (Or.inr ⟨h.length.symm, rfl⟩)⟩
  · simp only [references_withJoin, hnext, hs.references, hjoins, List.map_append, hplace]
    exact h.references.insert (fun i j hij => (TermAddress.reference.inj hij).2) hnew
  · simp only [predicateObjects_withJoin, hnext, hs.predicateObjects, hjoins, List.map_append,
      hplace]
    exact h.predicateObjects.insert (fun i j hij => (PredicateObjectAddress.mk.inj hij).2) hnew
  · simp only [tables_withJoin, hs.tables]
    exact h.tables
  · have hread := project_sameNames hn s (.reference t.id n) r.columns (t.parentAlias s n)
    rw [hreads, List.foldl_append]
    refine withJoin_sameNames.trans ?_
    rw [hnext]
    exact hread

theorem Reached.reference_eq (h : p.Reached t s n) {i : Nat} {m : PredicateObjectMap}
    {r : RefObjectMap} (hi : i < n) (hm : t.predicateObjects[i]? = some m)
    (hr : m.reference? = some r) :
    p.registry.references[TermAddress.reference t.id i]? = some (t.parentAlias s i) := by
  have hj := TriplesMap.getElem?_joinsUpTo hi hm hr
  refine (h.references _ _).mpr ⟨t.joinsBefore i, i, ?_, rfl, rfl⟩
  rw [List.getElem?_map, hj]
  rfl

theorem reached_addPredicateObject {q : Progress} {m : PredicateObjectMap}
    (hm : t.predicateObjects[n]? = some m) (h : p.Reached t s n)
    (hq : addPredicateObject s t.id (TriplesMap.baseAlias s) p (m, n) = .ok q) :
    q.Reached t s (n + 1) := by
  rcases addPredicateObject_eq_ok_iff.mp hq with ⟨hr, rfl⟩ | ⟨r, hr, hp⟩
  · exact h.addTerms hm hr
  · obtain ⟨l, source, hl, hsource, rfl⟩ := addParent_eq_ok_iff.mp hp
    exact h.addJoin hm hr hl hsource

end Progress

namespace TriplesMap

theorem reached_of_unfoldAll [SqlReader] {t : TriplesMap} {s : Settings} {p : Progress}
    (h : t.unfoldAll s = .ok p) : p.Reached t s t.predicateObjects.length := by
  unfold unfoldAll at h
  obtain ⟨p₀, hbase, hrest⟩ := bind_eq_ok_iff.mp h
  exact Progress.foldlM_zipIdx_ok (fun n m p q => Progress.reached_addPredicateObject)
    (Progress.reached_addBase hbase) hrest

end TriplesMap

end TriplesSql
