import TriplesSql.Command.Run
import TriplesSql.Proofs.Unfold.Obstacles
import TriplesSql.Proofs.Unfold.Restriction

/-!
# Queries for other dialects

The dialect of the settings has a part in the reading of query texts and nowhere else. Where the
texts of a rule are read alike in two dialects, the rule is unfolded alike for both.
-/

namespace TriplesSql

namespace Select.Tree

mutual

def decEq : (t u : Tree) → Decidable (t = u)
  | .leaf phrase text, .leaf phrase' text' =>
    decidable_of_iff (phrase = phrase' ∧ text = text') (by rw [leaf.injEq])
  | .node phrase between parts, .node phrase' between' parts' =>
    have := decEqParts parts parts'
    decidable_of_iff (phrase = phrase' ∧ between = between' ∧ parts = parts') (by rw [node.injEq])
  | .leaf .., .node .. => isFalse nofun
  | .node .., .leaf .. => isFalse nofun

def decEqParts : (ts us : List Tree) → Decidable (ts = us)
  | [], [] => isTrue rfl
  | t :: ts, u :: us =>
    have := decEq t u
    have := decEqParts ts us
    decidable_of_iff (t = u ∧ ts = us) (by rw [List.cons.injEq])
  | [], _ :: _ => isFalse nofun
  | _ :: _, [] => isFalse nofun

end

instance : DecidableEq Tree := decEq

end Select.Tree

def Query.forDialect (d : Dialect) (q : Query) : Query := { q with dialect := d }

def Unfolded.forDialect (d : Dialect) (u : Unfolded) : Unfolded :=
  ⟨u.query.forDialect d, u.registry⟩

theorem TriplesMap.restricted?_forDialect (t : TriplesMap) (s : Settings) (d : Dialect)
    (subject : Option String) (q : Query) :
    t.restricted? { s with dialect := d } subject (q.forDialect d)
      = (t.restricted? s subject q).map (Query.forDialect d) := by
  cases subject with
  | none => rfl
  | some value =>
    show (t.subject.conditionFor? value (baseAlias s)).map (q.forDialect d).restrict = _
    rw [restricted?, Option.map_map]
    rfl

theorem Progress.projectRead_congr {s s' : Settings} (h : s.onCollision = s'.onCollision) :
    projectRead s = projectRead s' := by
  have hcolumn : ∀ (a : TermAddress) (source : String),
      addColumn s a source = addColumn s' a source := by
    intro a source
    funext p reference
    cases hc : OutputColumn.ofReference? reference source with
    | none => rw [addColumn_of_none hc, addColumn_of_none hc]
    | some c =>
      delta addColumn
      simp only [hc, h]
  funext p r
  simp only [projectRead, project, hcolumn]

section reader

variable [SqlReader]

/-- The query text of a table, if it has one, gives the same tree in two dialects, or none in
both. -/
def LogicalTable.ReadsAlike (d d' : Dialect) : LogicalTable → Prop
  | .tableName _ | .unsupported => True
  | .queryString sql => (SqlReader.read d (Terminator.ensure sql)).toOption
    = (SqlReader.read d' (Terminator.ensure sql)).toOption

/-- The table of a rule and those of the parents that it joins are read alike. -/
structure TriplesMap.ReadsAlike (d d' : Dialect) (t : TriplesMap) : Prop where
  table : t.table.ReadsAlike d d'
  parents : ∀ m ∈ t.predicateObjects, ∀ r ∈ m.reference?, ∀ l ∈ r.parentTable, l.ReadsAlike d d'

instance (d d' : Dialect) : (l : LogicalTable) → Decidable (l.ReadsAlike d d')
  | .tableName _ | .unsupported => inferInstanceAs (Decidable True)
  | .queryString sql =>
    inferInstanceAs (Decidable ((SqlReader.read d (Terminator.ensure sql)).toOption
      = (SqlReader.read d' (Terminator.ensure sql)).toOption))

instance (d d' : Dialect) (t : TriplesMap) : Decidable (t.ReadsAlike d d') :=
  decidable_of_iff (t.table.ReadsAlike d d' ∧ ∀ m ∈ t.predicateObjects, ∀ r ∈ m.reference?,
      ∀ l ∈ r.parentTable, l.ReadsAlike d d')
    ⟨fun h => ⟨h.1, h.2⟩, fun h => ⟨h.table, h.parents⟩⟩

theorem RowSource.value_ofQueryText (d : Dialect) (sql : String) :
    (ofQueryText d sql).value = (SqlReader.read d (Terminator.ensure sql)).toOption.elim
      (.text (Terminator.ensure sql)) .query := by
  cases hread : SqlReader.read d (Terminator.ensure sql) with
  | ok tree =>
    simp only [ofQueryText, hread]
    rfl
  | error e =>
    simp only [ofQueryText, hread]
    rfl

theorem LogicalTable.ReadsAlike.refl (d : Dialect) (l : LogicalTable) : l.ReadsAlike d d := by
  cases l with
  | tableName name => trivial
  | unsupported => trivial
  | queryString sql => rfl

theorem LogicalTable.ReadsAlike.resolve_value {d d' : Dialect} {l : LogicalTable}
    (h : l.ReadsAlike d d') : (l.resolve d).value = (l.resolve d').value := by
  cases l with
  | tableName name => rfl
  | unsupported => rfl
  | queryString sql =>
    have hread : (SqlReader.read d (Terminator.ensure sql)).toOption
        = (SqlReader.read d' (Terminator.ensure sql)).toOption := h
    show some (RowSource.ofQueryText d sql).value = some (RowSource.ofQueryText d' sql).value
    rw [RowSource.value_ofQueryText, RowSource.value_ofQueryText, hread]

theorem TriplesMap.ReadsAlike.refl (d : Dialect) (t : TriplesMap) : t.ReadsAlike d d where
  table := .refl d t.table
  parents _ _ _ _ l _ := .refl d l

theorem TriplesMap.ReadsAlike.of_mem_joinsUpTo {d d' : Dialect} {t : TriplesMap}
    (h : t.ReadsAlike d d') {n i : Nat} {r : RefObjectMap} (hr : (i, r) ∈ t.joinsUpTo n)
    {l : LogicalTable} (hl : r.parentTable = some l) : l.ReadsAlike d d' := by
  obtain ⟨⟨m, index⟩, hm, hmap⟩ := List.mem_filterMap.mp hr
  obtain ⟨r', hr', he⟩ := Option.map_eq_some_iff.mp hmap
  obtain ⟨rfl, rfl⟩ := Prod.mk.inj he
  exact h.parents m (List.fst_mem_of_mem_zipIdx (List.mem_of_mem_take hm)) r' hr' l hl

namespace Progress

variable {t : TriplesMap} {s : Settings} {d : Dialect} {n : Nat} {p q : Progress}

theorem Reached.sources_prefix {m : Nat} (h : t.ReadsAlike s.dialect d) (hp : p.Reached t s m)
    (hq : q.Reached t { s with dialect := d } n) (hmn : m ≤ n) :
    p.query.sources <+: q.query.sources := by
  rw [List.prefix_iff_getElem?]
  intro i hi
  rw [← List.getElem?_eq_getElem hi]
  cases i with
  | zero =>
    obtain ⟨source, hsource, hbase⟩ := hp.base
    obtain ⟨source', hsource', hbase'⟩ := hq.base
    rw [h.table.resolve_value, hsource'] at hsource
    obtain rfl := Option.some.inj hsource
    rw [hbase, hbase']
    rfl
  | succ j =>
    obtain ⟨⟨k, r⟩, hj⟩ : ∃ e, (t.joinsUpTo m)[j]? = some e := by
      rw [hp.length, ← t.length_joinsUpTo] at hi
      exact ⟨_, List.getElem?_eq_getElem (Nat.lt_of_succ_lt_succ hi)⟩
    obtain ⟨l, source, hl, hsource, hjoin⟩ := hp.joins j k r hj
    obtain ⟨l', source', hl', hsource', hjoin'⟩ :=
      hq.joins j k r (getElem?_prefix_mono (t.joinsUpTo_prefix hmn) hj)
    obtain rfl := Option.some.inj (hl.symm.trans hl')
    rw [(h.of_mem_joinsUpTo (List.mem_of_getElem? hj) hl).resolve_value, hsource'] at hsource
    obtain rfl := Option.some.inj hsource
    rw [hjoin, hjoin']
    rfl

theorem Reached.sources_eq (h : t.ReadsAlike s.dialect d) (hp : p.Reached t s n)
    (hq : q.Reached t { s with dialect := d } n) : p.query.sources = q.query.sources :=
  (hp.sources_prefix h hq (Nat.le_refl n)).eq_of_length (by rw [hp.length, hq.length])

theorem Reached.sameNames (hp : p.Reached t s n) (hq : q.Reached t { s with dialect := d } n) :
    p.SameNames q := by
  have hstart : (start s.dialect []).SameNames (start d []) := ⟨rfl, rfl⟩
  have hfold := foldl_sameNames hstart s (t.readsUpTo s n)
  have hread : projectRead { s with dialect := d } = projectRead s := projectRead_congr rfl
  have hreads : t.readsUpTo { s with dialect := d } n = t.readsUpTo s n := rfl
  have hnames := hq.names
  rw [hread, hreads] at hnames
  exact (hp.names.trans hfold).trans ⟨hnames.outputs.symm, hnames.terms.symm⟩

theorem Reached.registry_eq (hp : p.Reached t s n) (hq : q.Reached t { s with dialect := d } n) :
    p.registry = q.registry := by
  have hterms : p.registry.terms = q.registry.terms := (hp.sameNames hq).terms
  have hreferences : p.registry.references = q.registry.references :=
    hp.references.eq hq.references
  have hmaps : p.registry.predicateObjects = q.registry.predicateObjects :=
    hp.predicateObjects.eq hq.predicateObjects
  have htables : p.registry.tables = q.registry.tables := by
    apply Std.ExtTreeMap.ext_getElem?
    intro rule
    apply Option.ext
    intro label
    rw [hp.tables, hq.tables]
    rfl
  show Registry.mk _ _ _ _ = Registry.mk _ _ _ _
  rw [hterms, hreferences, hmaps, htables]

end Progress

namespace TriplesMap

variable {t : TriplesMap} {s : Settings} {d : Dialect}

/-- The work on a rule ends with the same error in both dialects, or with states that differ in the
tag of the query and in events. -/
theorem unfoldAll_forDialect (h : t.ReadsAlike s.dialect d) :
    (∃ stop stop', t.unfoldAll s = .error stop ∧ t.unfoldAll { s with dialect := d } = .error stop'
      ∧ stop'.error = stop.error)
    ∨ ∃ p p', t.unfoldAll s = .ok p ∧ t.unfoldAll { s with dialect := d } = .ok p'
      ∧ p'.query = p.query.forDialect d ∧ p'.registry = p.registry := by
  have hfailure : failure? (t.unfoldAll { s with dialect := d }) = failure? (t.unfoldAll s) := by
    rw [failure?_unfoldAll, failure?_unfoldAll]
  cases hp : t.unfoldAll s with
  | error stop =>
    cases hp' : t.unfoldAll { s with dialect := d } with
    | error stop' =>
      rw [hp, hp'] at hfailure
      exact Or.inl ⟨stop, stop', rfl, rfl, Option.some.inj hfailure⟩
    | ok p' =>
      rw [hp, hp'] at hfailure
      cases hfailure
  | ok p =>
    cases hp' : t.unfoldAll { s with dialect := d } with
    | error stop' =>
      rw [hp, hp'] at hfailure
      cases hfailure
    | ok p' =>
      have hr := reached_of_unfoldAll hp
      have hr' := reached_of_unfoldAll hp'
      have hu := unrestricted_of_unfoldAll hp
      have hu' := unrestricted_of_unfoldAll hp'
      refine Or.inr ⟨p, p', rfl, rfl, ?_, (hr.registry_eq hr').symm⟩
      show Query.mk _ _ _ _ = Query.mk _ _ _ d
      rw [(hr.sameNames hr').outputs, hr.sources_eq h hr', hu.filter, hu'.filter, hu'.dialect]

/-- Settings that differ in the dialect alone give the same error, no query in both cases, or the
same query but for its tag with the same names; so the texts of the queries in any dialect are
equal. -/
theorem unfold_forDialect (h : t.ReadsAlike s.dialect d) (subject : Option String) :
    (t.unfold { s with dialect := d } subject).value
      = (t.unfold s subject).value.map (Option.map (Unfolded.forDialect d))
    ∧ ∀ target, (t.unfold { s with dialect := d } subject).value.map
        (Option.map fun u => u.query.render target)
      = (t.unfold s subject).value.map (Option.map fun u => u.query.render target) := by
  have hvalue : (t.unfold { s with dialect := d } subject).value
      = (t.unfold s subject).value.map (Option.map (Unfolded.forDialect d)) := by
    rw [unfold_value, unfold_value]
    rcases unfoldAll_forDialect h with ⟨stop, stop', hp, hp', he⟩ | ⟨p, p', hp, hp', hq, hr⟩
    · simp only [hp, hp', he]
      rfl
    · simp only [hp, hp', hq, hr, restricted?_forDialect, Except.map, Option.map_map]
      rfl
  refine ⟨hvalue, fun target => ?_⟩
  rw [hvalue]
  cases (t.unfold s subject).value with
  | error e => rfl
  | ok found =>
    cases found with
    | none => rfl
    | some u => rfl

end TriplesMap

end reader

-- A name between back quotes is read in one of the two dialects only.
example : ¬(LogicalTable.queryString "SELECT `code` FROM route").ReadsAlike .postgres .mysql := by
  decide +kernel

namespace TriplesMap

def surveyRule : TriplesMap where
  id := "Stop"
  table := .queryString "SELECT id, route FROM stop WHERE open"
  subject := .template "stop/\x7bid\x7d"
  predicateObjects := [⟨[], [], [⟨"Route", [⟨"route", "code"⟩], some (.queryString "SELECT )"),
    some (.column "code")⟩]⟩]

theorem unfold_forDialect_surveyRule : surveyRule.ReadsAlike .postgres .mysql
    ∧ (∃ u, (surveyRule.unfold {} (some "stop/7")).value = .ok (some u)
      ∧ (surveyRule.unfold { dialect := .mysql } (some "stop/7")).value
        = .ok (some (u.forDialect .mysql))
      ∧ u.query.dialect = .postgres ∧ (u.forDialect .mysql).query.dialect = .mysql)
    ∧ ∀ target, (surveyRule.unfold { dialect := .mysql } (some "stop/7")).value.map
        (Option.map fun u => u.query.render target)
      = (surveyRule.unfold {} (some "stop/7")).value.map
        (Option.map fun u => u.query.render target) := by
  have hread : surveyRule.ReadsAlike .postgres .mysql := by decide +kernel
  obtain ⟨hvalue, hrender⟩ := unfold_forDialect (s := {}) hread (some "stop/7")
  have hout : (surveyRule.unfold {} (some "stop/7")).value.toOption.join.map
      (fun u => u.query.dialect) = some .postgres := by decide +kernel
  obtain ⟨u, hu, hdialect⟩ := exists_of_map_eq_some hout
  rw [hu] at hvalue
  exact ⟨hread, ⟨u, hu, hvalue, hdialect, rfl⟩, hrender⟩

end TriplesMap

end TriplesSql
