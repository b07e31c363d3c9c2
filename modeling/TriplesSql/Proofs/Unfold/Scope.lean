import TriplesSql.Command.Run
import TriplesSql.Proofs.Mapping.Demand
import TriplesSql.Proofs.Unfold.Cells
import TriplesSql.Proofs.Unfold.Sources

/-!
# Scopes of unfolded rules

Sources are numbered behind one prefix, so their names are distinct whatever the prefix is. The
columns of a parent are read from a source that is not joined yet, under the name that it is joined
with next; behind each predicate-object map all names in use are those of sources.
-/

namespace TriplesSql

def TriplesMap.joinedLabels (t : TriplesMap) (s : Settings) (n : Nat) : List String :=
  (List.range (t.joinsBefore n)).map (Progress.joinLabel s)

namespace Progress

variable {t : TriplesMap} {s : Settings} {n : Nat} {p : Progress}

theorem nodup_labels (t : TriplesMap) (s : Settings) (n : Nat) :
    (TriplesMap.baseAlias s :: t.joinedLabels s n).Nodup := by
  rw [List.nodup_cons]
  constructor
  · intro hmem
    obtain ⟨j, -, hj⟩ := List.mem_map.mp hmem
    have hn := sourceName_inj hj
    omega
  · refine List.Nodup.map (fun i j hij => ?_) List.nodup_range
    have hn := sourceName_inj hij
    omega

theorem source_mem_labels {r : TermRead} (hr : r ∈ t.readsUpTo s n) :
    r.source ∈ TriplesMap.baseAlias s :: t.joinedLabels s n := by
  rcases TriplesMap.source_of_mem_readsUpTo hr with ⟨hs, -⟩ | ⟨index, m, x, hi, hm, hx, -, hs⟩
  · rw [hs]
    exact List.mem_cons_self
  · have hjoin := TriplesMap.getElem?_joinsUpTo hi hm hx
    obtain ⟨hlt, -⟩ := List.getElem?_eq_some_iff.mp hjoin
    rw [t.length_joinsUpTo] at hlt
    rw [hs]
    exact List.mem_cons_of_mem _ (List.mem_map.mpr ⟨_, List.mem_range.mpr hlt, rfl⟩)

variable [SqlReader]

theorem Reached.getElem?_sources (h : p.Reached t s n) {i : Nat} {item : QuerySource}
    (hi : p.query.sources[i]? = some item) :
    (i = 0 ∧ ∃ source, item = .base source (TriplesMap.baseAlias s))
    ∨ ∃ j r source, i = j + 1 ∧ item = RefObjectMap.joined r source (TriplesMap.baseAlias s)
      (joinLabel s j) := by
  cases i with
  | zero =>
    obtain ⟨source, -, hbase⟩ := h.base
    exact Or.inl ⟨rfl, source, Option.some.inj (hi.symm.trans hbase)⟩
  | succ j =>
    obtain ⟨hlt, -⟩ := List.getElem?_eq_some_iff.mp hi
    have hj : j < (t.joinsUpTo n).length := by
      rw [t.length_joinsUpTo]
      rw [h.length] at hlt
      omega
    obtain ⟨l, source, -, -, hjoin⟩ :=
      h.joins j _ _ (List.getElem?_eq_getElem hj)
    exact Or.inr ⟨j, _, source, rfl, Option.some.inj (hi.symm.trans hjoin)⟩

theorem Reached.map_label_sources (h : p.Reached t s n) :
    p.query.sources.map (·.label)
      = (TriplesMap.baseAlias s :: t.joinedLabels s n).map some := by
  apply List.ext_getElem
  · simp only [List.length_map, List.length_cons, TriplesMap.joinedLabels, List.length_range,
      h.length]
  · intro i hi hi'
    rw [List.length_map] at hi
    rw [List.getElem_map, List.getElem_map]
    rcases h.getElem?_sources (List.getElem?_eq_getElem hi) with ⟨rfl, source, he⟩
      | ⟨j, r, source, rfl, he⟩
    · rw [he]
      rfl
    · simp only [he, TriplesMap.joinedLabels, List.getElem_cons_succ, List.getElem_map,
        List.getElem_range]
      rfl

theorem Reached.table_mem_labels (h : p.Reached t s n) {c : OutputColumn}
    (hc : c ∈ p.query.outputs) : c.table ∈ TriplesMap.baseAlias s :: t.joinedLabels s n := by
  have hcell : c.cell ∈ p.query.outputs.map OutputColumn.cell := List.mem_map_of_mem hc
  rw [h.names.outputs, cells_foldl, List.mem_eraseDups, List.filterMap_flatMap] at hcell
  obtain ⟨r, hr, hcell⟩ := List.mem_flatMap.mp hcell
  rw [filterMap_cell?] at hcell
  obtain ⟨column, -, he⟩ := List.mem_map.mp hcell
  have htable : r.source = c.table := (Prod.mk.inj he).1
  rw [← htable]
  exact source_mem_labels hr

/-- Behind any number of predicate-object maps the names in use are those of the sources so far. -/
theorem Reached.isScoped (h : p.Reached t s n) (hp : p.query.filter = none) :
    p.query.IsScoped (TriplesMap.baseAlias s) (t.joinedLabels s n) := by
  constructor
  · exact h.map_label_sources
  · exact nodup_labels t s n
  · intro c hc
    exact h.table_mem_labels hc
  · intro item hitem c hc
    obtain ⟨i, hi⟩ := List.mem_iff_getElem?.mp hitem
    rcases h.getElem?_sources hi with ⟨-, source, rfl⟩ | ⟨j, r, source, -, rfl⟩
    · cases hc
    · obtain rfl := Option.some.inj hc
      exact ⟨_, rfl, JoinCondition.readsOnly_allOf r.conditions _ _⟩
  · intro c hc
    rw [hp] at hc
    cases hc

end Progress

namespace TriplesMap

theorem isScoped_of_restricted? {t : TriplesMap} {s : Settings} {subject : Option String}
    {q q' : Query} {joined : List String} (h : t.restricted? s subject q = some q')
    (hq : q.IsScoped (baseAlias s) joined) : q'.IsScoped (baseAlias s) joined := by
  cases subject with
  | none =>
    obtain rfl : q = q' := Option.some.inj h
    exact hq
  | some value =>
    obtain ⟨c, hc, rfl⟩ := Option.map_eq_some_iff.mp h
    exact hq.restrict (TermMap.readsOnly_of_conditionFor? hc)

/-- The query of a rule is well scoped, whatever the prefix of the names of its sources is and
whether or not a subject is given, and so is the query of its subject alone. -/
theorem isScoped_of_unfold [SqlReader] (t : TriplesMap) (s : Settings) :
    (∀ (subject : Option String) (u : Unfolded), (t.unfold s subject).value = .ok (some u) →
      u.query.IsScoped (sourceName s.aliasPrefix 1)
        ((List.range t.joins.length).map fun j => sourceName s.aliasPrefix (j + 2)))
    ∧ ∀ u : Unfolded, (t.unfoldSubject s).value = .ok u →
      u.query.IsScoped (sourceName s.aliasPrefix 1) [] := by
  constructor
  · intro subject u h
    obtain ⟨p, hp, hq, -⟩ := unfold_eq_some_iff.mp h
    have hscoped := (reached_of_unfoldAll hp).isScoped (unrestricted_of_unfoldAll hp).filter
    rw [joinedLabels, ← t.length_joinsUpTo, t.joinsUpTo_length] at hscoped
    exact isScoped_of_restricted? hq hscoped
  · intro u h
    unfold unfoldSubject at h
    cases hp : (Progress.start s.dialect []).addBase s t with
    | error stop => simp [hp] at h
    | ok p =>
      simp only [hp, Except.ok.injEq] at h
      subst h
      exact (Progress.reached_addBase hp).isScoped (Progress.unrestricted_addBase hp).filter

theorem isScoped_joiningRule :
    (∃ u, (joiningRule.unfold { aliasPrefix := "1" } (some "7")).value = .ok (some u)
      ∧ (u.query.filter, u.query.sources.map (·.label))
        = (some (.eq (.columnOf "11" "id") (.literal (.string "7"))),
          [some "11", some "12", some "13"])
      ∧ u.query.IsScoped "11" ["12", "13"])
    ∧ ∃ u, (joiningRule.unfoldSubject { aliasPrefix := "1" }).value = .ok u
      ∧ u.query.IsScoped "11" [] := by
  obtain ⟨hall, hsubject⟩ := isScoped_of_unfold joiningRule { aliasPrefix := "1" }
  have hout : (joiningRule.unfold { aliasPrefix := "1" } (some "7")).value.toOption.join.map
      (fun u => (u.query.filter, u.query.sources.map (·.label)))
        = some (some (.eq (.columnOf "11" "id") (.literal (.string "7"))),
          [some "11", some "12", some "13"]) := by decide +kernel
  obtain ⟨u, hu, hparts⟩ := exists_of_map_eq_some hout
  refine ⟨⟨u, hu, hparts, hall (some "7") u hu⟩, ?_⟩
  cases hs : (joiningRule.unfoldSubject { aliasPrefix := "1" }).value with
  | ok u => exact ⟨u, rfl, hsubject u hs⟩
  | error e =>
    have hok : (joiningRule.unfoldSubject { aliasPrefix := "1" }).value.isOk = true := by
      decide +kernel
    rw [hs] at hok
    cases hok

end TriplesMap

end TriplesSql
