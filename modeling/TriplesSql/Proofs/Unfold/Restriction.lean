import TriplesSql.Proofs.Unfold.Run

namespace TriplesSql

namespace Progress

/-- The query has no filter yet and is meant for a dialect. -/
structure Unrestricted (d : Dialect) (p : Progress) : Prop where
  filter : p.query.filter = none
  dialect : p.query.dialect = d

variable {p q : Progress} {d : Dialect} {s : Settings}

theorem SameSources.unrestricted (h : p.SameSources q) (hq : q.Unrestricted d) :
    p.Unrestricted d :=
  ⟨h.filter.trans hq.filter, h.dialect.trans hq.dialect⟩

variable [SqlReader]

theorem unrestricted_addBase {events : List Event} {t : TriplesMap}
    (h : (start d events).addBase s t = .ok p) : p.Unrestricted d := by
  obtain ⟨source, -, rfl⟩ := addBase_eq_ok_iff.mp h
  have hbase : ((start d events).withBase s t source).Unrestricted d := ⟨rfl, rfl⟩
  exact (project_sameSources _ s _ _ _).unrestricted hbase

theorem Unrestricted.addPredicateObject (h : p.Unrestricted d) {rule baseAlias : String}
    {entry : PredicateObjectMap × Nat}
    (hq : addPredicateObject s rule baseAlias p entry = .ok q) : q.Unrestricted d := by
  obtain ⟨m, index⟩ := entry
  have hterms : (p.withTerms s rule index m baseAlias).Unrestricted d := by
    rw [withTerms_eq]
    exact (foldl_sameSources p s _).unrestricted h
  rcases addPredicateObject_eq_ok_iff.mp hq with ⟨-, rfl⟩ | ⟨r, -, hp⟩
  · exact hterms
  · obtain ⟨l, source, -, -, rfl⟩ := addParent_eq_ok_iff.mp hp
    exact ⟨by simp [hterms.filter], by simp [hterms.dialect]⟩

end Progress

namespace TriplesMap

theorem exists_of_map_eq_some {ε α β : Type} {x : Except ε (Option α)} {f : α → β} {v : β}
    (h : x.toOption.join.map f = some v) : ∃ u, x = .ok (some u) ∧ f u = v := by
  obtain ⟨u, hu, hf⟩ := Option.map_eq_some_iff.mp h
  rcases x with e | found
  · simp [Except.toOption] at hu
  · rw [Except.toOption, Option.join_some] at hu
    exact ⟨u, congrArg _ hu, hf⟩

variable {t : TriplesMap} {s : Settings} {subject : Option String}

def restricted? (t : TriplesMap) (s : Settings) (subject : Option String) (q : Query) :
    Option Query :=
  match subject with
  | none => some q
  | some value => (t.subject.conditionFor? value (baseAlias s)).map q.restrict

theorem columns_of_restricted? {q q' : Query} (h : t.restricted? s subject q = some q') :
    q'.outputs = q.outputs ∧ q'.sources = q.sources := by
  cases subject with
  | none =>
    obtain rfl : q = q' := Option.some.inj h
    exact ⟨rfl, rfl⟩
  | some value =>
    obtain ⟨c, -, rfl⟩ := Option.map_eq_some_iff.mp h
    exact ⟨rfl, rfl⟩

variable [SqlReader]

theorem unrestricted_of_unfoldAll {p : Progress} (h : t.unfoldAll s = .ok p) :
    p.Unrestricted s.dialect := by
  unfold unfoldAll at h
  obtain ⟨p₀, hbase, hrest⟩ := bind_eq_ok_iff.mp h
  exact Progress.foldlM_zipIdx_ok (P := fun _ p => p.Unrestricted s.dialect)
    (fun _ _ _ _ _ hp hq => hp.addPredicateObject hq) (Progress.unrestricted_addBase hbase) hrest

theorem unfold_value (t : TriplesMap) (s : Settings) (subject : Option String) :
    (t.unfold s subject).value = match t.unfoldAll s with
      | .error stop => .error stop.error
      | .ok p => .ok ((t.restricted? s subject p.query).map fun q => ⟨q, p.registry⟩) := by
  unfold unfold restricted?
  cases t.unfoldAll s with
  | error stop => rfl
  | ok p =>
    cases subject with
    | none => rfl
    | some value =>
      cases hc : t.subject.conditionFor? value (baseAlias s) with
      | none => simp only [hc, Option.map_none]
      | some condition => simp only [hc, Option.map_some]

theorem unfold_eq_some_iff {u : Unfolded} : (t.unfold s subject).value = .ok (some u)
    ↔ ∃ p, t.unfoldAll s = .ok p ∧ t.restricted? s subject p.query = some u.query
      ∧ u.registry = p.registry := by
  rw [unfold_value]
  cases t.unfoldAll s with
  | error stop => simp
  | ok p =>
    simp only [Except.ok.injEq, Option.map_eq_some_iff, exists_eq_left']
    constructor
    · rintro ⟨q, hq, rfl⟩
      exact ⟨hq, rfl⟩
    · rintro ⟨hq, hr⟩
      exact ⟨u.query, hq, hr ▸ rfl⟩

theorem unfold_eq_some {u : Unfolded} (h : (t.unfold s subject).value = .ok (some u)) :
    ∃ p, t.unfoldAll s = .ok p ∧ u.query.outputs = p.query.outputs
      ∧ u.query.sources = p.query.sources ∧ u.registry = p.registry := by
  obtain ⟨p, hp, hq, hr⟩ := unfold_eq_some_iff.mp h
  obtain ⟨houtputs, hsources⟩ := columns_of_restricted? hq
  exact ⟨p, hp, houtputs, hsources, hr⟩

theorem unfoldSubject_eq_ok_iff {u : Unfolded} : (t.unfoldSubject s).value = .ok u
    ↔ ∃ p, (Progress.start s.dialect []).addBase s t = .ok p ∧ u = ⟨p.query, p.registry⟩ := by
  unfold unfoldSubject
  cases (Progress.start s.dialect []).addBase s t with
  | error stop => simp
  | ok p => simp only [Except.ok.injEq, exists_eq_left', eq_comm]

end TriplesMap

end TriplesSql
