import TriplesSql.Proofs.Unfold.Steps

/-!
# What stops the work on a rule

A rule is stopped by its own table if that has no rows to read, and otherwise by the first
predicate-object map whose parent cannot be joined. Nothing else stops it, whatever the texts of
queries are, and on the way no event is an error.
-/

namespace TriplesSql

def RefObjectMap.IsJoinable (r : RefObjectMap) : Prop := ∃ l ∈ r.parentTable, l ≠ .unsupported

instance (r : RefObjectMap) : Decidable r.IsJoinable :=
  inferInstanceAs (Decidable (∃ l ∈ r.parentTable, l ≠ .unsupported))

def PredicateObjectMap.IsJoinable (m : PredicateObjectMap) : Prop :=
  ∀ r ∈ m.reference?, r.IsJoinable

instance (m : PredicateObjectMap) : Decidable m.IsJoinable :=
  inferInstanceAs (Decidable (∀ r ∈ m.reference?, r.IsJoinable))

namespace TriplesMap

/-- The table of a rule has rows to read, and so have the tables that are joined to it. -/
structure IsUnfoldable (t : TriplesMap) : Prop where
  table : t.table ≠ .unsupported
  joinable : ∀ m ∈ t.predicateObjects, m.IsJoinable

/-- The first reason for which a rule cannot be unfolded. -/
def obstacle? (t : TriplesMap) : Option UnfoldError :=
  if t.table = .unsupported then some (.unsupportedTable t.id)
  else (t.predicateObjects.find? (¬·.IsJoinable)).map fun m => .missingParent m.predicateName

theorem obstacle?_eq_none_iff {t : TriplesMap} : t.obstacle? = none ↔ t.IsUnfoldable := by
  unfold obstacle?
  by_cases ht : t.table = .unsupported
  · rw [if_pos ht]
    exact ⟨fun h => (nomatch h), fun h => absurd ht h.table⟩
  · rw [if_neg ht, Option.map_eq_none_iff, List.find?_eq_none]
    simp only [decide_not, Bool.not_eq_true', decide_eq_false_iff_not, Decidable.not_not]
    exact ⟨fun h => ⟨ht, h⟩, fun h => h.joinable⟩

end TriplesMap

theorem LogicalTable.resolve_eq_none_iff [SqlReader] {d : Dialect} {l : LogicalTable} :
    (l.resolve d).value = none ↔ l = .unsupported := by
  cases l <;> simp [resolve]

def failure? {α : Type} : Except Stop α → Option UnfoldError
  | .ok _ => none
  | .error stop => some stop.error

theorem failure?_bind {α β : Type} {f : α → Except Stop β} {e : Option UnfoldError}
    (h : ∀ a, failure? (f a) = e) (x : Except Stop α) :
    failure? (x >>= f) = (failure? x).or e := by
  cases x with
  | error stop => rfl
  | ok a => exact h a

namespace Progress

variable [SqlReader]

theorem failure?_resolve (p : Progress) (s : Settings) (e : UnfoldError)
    (table : Option LogicalTable) :
    failure? (p.resolve s e table) = if ∃ l ∈ table, l ≠ .unsupported then none else some e := by
  cases table with
  | none => simp [resolve, failure?]
  | some l =>
    by_cases hl : l = .unsupported
    · subst hl
      simp [resolve, LogicalTable.resolve, failure?]
    · have hvalue : (l.resolve s.dialect).value ≠ none :=
        fun h => hl (LogicalTable.resolve_eq_none_iff.mp h)
      obtain ⟨source, hsource⟩ := Option.ne_none_iff_exists'.mp hvalue
      simp [resolve, hsource, failure?, hl]

theorem failure?_addBase (p : Progress) (s : Settings) (t : TriplesMap) :
    failure? (p.addBase s t)
      = if t.table = .unsupported then some (.unsupportedTable t.id) else none := by
  unfold addBase
  rw [failure?_bind (e := none) fun _ => rfl, failure?_resolve, Option.or_none]
  by_cases ht : t.table = .unsupported <;> simp [ht]

theorem failure?_addPredicateObject (p : Progress) (s : Settings) (rule baseAlias : String)
    (m : PredicateObjectMap) (index : Nat) :
    failure? (addPredicateObject s rule baseAlias p (m, index))
      = if m.IsJoinable then none else some (.missingParent m.predicateName) := by
  cases hr : m.reference? with
  | none =>
    have hm : m.IsJoinable := by simp [PredicateObjectMap.IsJoinable, hr]
    rw [if_pos hm]
    simp [addPredicateObject, hr, failure?]
  | some r =>
    have hm : m.IsJoinable ↔ ∃ l ∈ r.parentTable, l ≠ .unsupported := by
      simp [PredicateObjectMap.IsJoinable, RefObjectMap.IsJoinable, hr]
    simp only [addPredicateObject, hr, addParent]
    rw [failure?_bind (e := none) fun _ => rfl, failure?_resolve, Option.or_none]
    simp only [hm]

theorem failure?_addPredicateObjects (p : Progress) (s : Settings) (rule baseAlias : String)
    (ms : List PredicateObjectMap) (n : Nat) :
    failure? ((ms.zipIdx n).foldlM (addPredicateObject s rule baseAlias) p)
      = (ms.find? (¬·.IsJoinable)).map fun m => .missingParent m.predicateName := by
  induction ms generalizing p n with
  | nil => rfl
  | cons m ms ih =>
    rw [List.zipIdx_cons, List.foldlM_cons, failure?_bind fun q => ih q (n + 1),
      failure?_addPredicateObject]
    by_cases hm : m.IsJoinable
    · rw [if_pos hm, List.find?_cons_of_neg (by simpa using hm), Option.none_or]
    · rw [if_neg hm, List.find?_cons_of_pos (by simpa using hm)]
      rfl

end Progress

namespace TriplesMap

variable [SqlReader]

theorem failure?_unfoldAll (t : TriplesMap) (s : Settings) :
    failure? (t.unfoldAll s) = t.obstacle? := by
  unfold unfoldAll
  rw [failure?_bind fun p => p.failure?_addPredicateObjects s t.id (baseAlias s)
    t.predicateObjects 0, Progress.failure?_addBase, obstacle?]
  split <;> rfl

/-- A rule that can be unfolded has a query, and any other one ends with its first obstacle. -/
theorem unfold_none_value (t : TriplesMap) (s : Settings) :
    (∃ u, (t.unfold s none).value = .ok (some u) ∧ t.obstacle? = none)
      ∨ ∃ e, (t.unfold s none).value = .error e ∧ t.obstacle? = some e := by
  have hfailure := t.failure?_unfoldAll s
  unfold unfold
  cases hp : t.unfoldAll s with
  | ok p =>
    rw [hp] at hfailure
    exact Or.inl ⟨_, rfl, hfailure.symm⟩
  | error stop =>
    rw [hp] at hfailure
    exact Or.inr ⟨_, rfl, hfailure.symm⟩

end TriplesMap

def strandedRule : TriplesMap where
  id := "Trip"
  table := .tableName "trip"
  subject := .column "id"
  predicateObjects := [⟨[], [], [⟨"Route", [], some (.tableName "route"), some (.column "code")⟩]⟩,
    ⟨[.constant "http://example.org/fleet"], [], [⟨"Fleet", [], none, none⟩]⟩]

example : strandedRule.obstacle? = some (.missingParent "http://example.org/fleet") := by decide

def Quiet (events : List Event) : Prop := ∀ e ∈ events, e.level ≠ .error

theorem Quiet.append {es es' : List Event} (h : Quiet es) (h' : Quiet es') : Quiet (es ++ es') := by
  intro e he
  rcases List.mem_append.mp he with he | he
  · exact h e he
  · exact h' e he

theorem quiet_nil : Quiet [] := fun _ he => absurd he List.not_mem_nil

theorem quiet_singleton {e : Event} (h : e.level ≠ .error) : Quiet [e] := by
  intro e' he'
  rw [List.mem_singleton.mp he']
  exact h

theorem LogicalTable.quiet_resolve [SqlReader] (d : Dialect) (l : LogicalTable) :
    Quiet (l.resolve d).events := by
  cases l with
  | tableName name => exact quiet_nil
  | queryString sql =>
    simp only [resolve, RowSource.ofQueryText]
    split
    · exact quiet_nil
    · exact quiet_singleton (by simp [Event.level])
  | unsupported => exact quiet_singleton (by simp [Event.level])

theorem Query.quiet_nameFor (q : Query) (policy : CollisionPolicy) (c : OutputColumn) :
    Quiet (q.nameFor policy c).events := by
  unfold nameFor
  dsimp only
  split
  · cases policy with
    | keep => exact quiet_singleton (by simp [Event.level])
    | rename => exact quiet_singleton (by simp [Event.level])
  · exact quiet_nil

def EndsQuietly {α : Type} (events : α → List Event) : Except Stop α → Prop
  | .ok a => Quiet (events a)
  | .error stop => Quiet stop.events

theorem EndsQuietly.bind {α β : Type} {events : α → List Event} {events' : β → List Event}
    {x : Except Stop α} {f : α → Except Stop β} (h : EndsQuietly events x)
    (hf : ∀ a, Quiet (events a) → EndsQuietly events' (f a)) : EndsQuietly events' (x >>= f) := by
  cases x with
  | error stop => exact h
  | ok a => exact hf a h

namespace Progress

theorem quiet_addColumn {p : Progress} (h : Quiet p.events) (s : Settings) (a : TermAddress)
    (table reference : String) : Quiet (p.addColumn s a table reference).events := by
  cases hc : OutputColumn.ofReference? reference table with
  | none =>
    rw [addColumn_of_none hc]
    exact h
  | some c =>
    rw [addColumn_events hc]
    refine (h.append (p.query.quiet_nameFor s.onCollision c)).append ?_
    split
    · exact quiet_nil
    · exact quiet_singleton (by simp [Event.level])

theorem quiet_project {p : Progress} (h : Quiet p.events) (s : Settings) (a : TermAddress)
    (references : List String) (table : String) :
    Quiet (p.project s a references table).events := by
  refine List.foldlRecOn (motive := fun p : Progress => Quiet p.events) references _ h ?_
  intro q hq reference _
  exact quiet_addColumn hq s a table reference

theorem quiet_addTerm {p : Progress} (h : Quiet p.events) (s : Settings) (a : TermAddress)
    (m : Option TermMap) (table : String) : Quiet (p.addTerm s a m table).events := by
  cases m with
  | none => exact h
  | some m => exact quiet_project h s a m.columns table

variable [SqlReader]

theorem endsQuietly_resolve {p : Progress} (h : Quiet p.events) (s : Settings) (e : UnfoldError)
    (table : Option LogicalTable) : EndsQuietly (·.2.events) (p.resolve s e table) := by
  cases table with
  | none => exact h
  | some l =>
    have hall := h.append (l.quiet_resolve s.dialect)
    simp only [resolve]
    split
    · exact hall
    · exact hall

theorem endsQuietly_addBase {p : Progress} (h : Quiet p.events) (s : Settings) (t : TriplesMap) :
    EndsQuietly events (p.addBase s t) := by
  unfold addBase
  refine (endsQuietly_resolve h s _ _).bind ?_
  rintro ⟨source, q⟩ hq
  have hbase : Quiet (Progress.mk (q.query.addSource (.base source (q.nextSource s)))
      (q.registry.recordTable t.id (q.nextSource s)) q.events).events := hq
  exact quiet_project hbase s _ _ _

theorem endsQuietly_addPredicateObject {p : Progress} (h : Quiet p.events) (s : Settings)
    (rule baseAlias : String) (entry : PredicateObjectMap × Nat) :
    EndsQuietly events (addPredicateObject s rule baseAlias p entry) := by
  obtain ⟨m, index⟩ := entry
  have hread := quiet_addTerm (quiet_addTerm h s (.predicate rule index) m.predicate? baseAlias) s
    (.object rule index) m.object? baseAlias
  cases hr : m.reference? with
  | none =>
    simp only [addPredicateObject, hr]
    exact hread
  | some r =>
    simp only [addPredicateObject, hr, addParent]
    refine (endsQuietly_resolve hread s _ _).bind ?_
    rintro ⟨source, q⟩ hq
    have hjoined : Quiet [.parentJoined (.reference rule index) r.parent (q.nextSource s)] :=
      quiet_singleton (by simp [Event.level])
    exact quiet_project (p := ⟨_, _, q.events ++ [_]⟩) (Quiet.append hq hjoined) s _ _ _

theorem endsQuietly_addPredicateObjects {p : Progress} (h : Quiet p.events) (s : Settings)
    (rule baseAlias : String) (entries : List (PredicateObjectMap × Nat)) :
    EndsQuietly events (entries.foldlM (addPredicateObject s rule baseAlias) p) := by
  induction entries generalizing p with
  | nil => exact h
  | cons entry entries ih =>
    rw [List.foldlM_cons]
    exact (endsQuietly_addPredicateObject h s rule baseAlias entry).bind fun q hq => ih hq

end Progress

theorem TriplesMap.quiet_unfold [SqlReader] (t : TriplesMap) (s : Settings)
    (subject : Option String) : Quiet (t.unfold s subject).events := by
  have hstart : Quiet (Progress.start s.dialect [.ruleStarted t.id]).events :=
    quiet_singleton (by simp [Event.level])
  have hall : EndsQuietly Progress.events (t.unfoldAll s) :=
    (Progress.endsQuietly_addBase hstart s t).bind fun p hp =>
      Progress.endsQuietly_addPredicateObjects hp s t.id (baseAlias s) _
  unfold unfold
  cases hp : t.unfoldAll s with
  | error stop =>
    rw [hp] at hall
    exact hall
  | ok p =>
    rw [hp] at hall
    cases subject with
    | none => exact hall
    | some value =>
      dsimp only
      split
      · exact hall
      · exact Quiet.append hall (quiet_singleton (by simp [Event.level]))

end TriplesSql
