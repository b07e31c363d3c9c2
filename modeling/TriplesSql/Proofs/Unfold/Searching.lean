import TriplesSql.Proofs.Query.BareTruth
import TriplesSql.Proofs.Unfold.Scope

namespace TriplesSql

variable {d : Dialect}

theorem JoinCondition.isSearch_allOf (hd : d.allowsBareBoolean = false) (cs : List JoinCondition)
    (childAlias parentAlias : String) :
    Condition.IsSearch ((allOf cs childAlias parentAlias).searched d) := by
  refine Query.isSearch_searched_allOf hd (List.forall_mem_map.mpr fun c _ => ?_)
  exact (Condition.isSearch_unspaced_iff (Condition.isTight_of_isPlain rfl)).mpr rfl

theorem TermMap.isSearch_of_conditionFor? (hd : d.allowsBareBoolean = false) {m : TermMap}
    {value label : String} {c : Condition} (h : m.conditionFor? value label = some c) :
    Condition.IsSearch (c.searched d) := by
  rw [conditionFor?_eq] at h
  obtain ⟨demands, -, rfl⟩ := Option.map_eq_some_iff.mp h
  refine Query.isSearch_searched_allOf hd (List.forall_mem_map.mpr fun x _ => ?_)
  exact (Condition.isSearch_unspaced_iff (Condition.isTight_of_isPlain rfl)).mpr rfl

theorem Progress.Reached.isSearch_on [SqlReader] (hd : d.allowsBareBoolean = false) {t : TriplesMap}
    {s : Settings} {n : Nat} {p : Progress} (h : p.Reached t s n) :
    ∀ c ∈ p.query.sources.filterMap (·.on), Condition.IsSearch (c.searched d) := by
  intro c hc
  obtain ⟨item, hitem, hon⟩ := List.mem_filterMap.mp hc
  obtain ⟨i, hi⟩ := List.mem_iff_getElem?.mp hitem
  rcases h.getElem?_sources hi with ⟨-, source, rfl⟩ | ⟨j, r, source, -, rfl⟩
  · cases hon
  · obtain rfl := Option.some.inj hon
    exact JoinCondition.isSearch_allOf hd r.conditions _ _

namespace TriplesMap

/-- Where a truth value may not stand alone, none does in the query of a rule, whether or not a
subject is given, nor in the query of its subject. -/
theorem isSearchable_of_unfold [SqlReader] (hd : d.allowsBareBoolean = false) (t : TriplesMap)
    (s : Settings) :
    (∀ (subject : Option String) (u : Unfolded), (t.unfold s subject).value = .ok (some u) →
      u.query.IsSearchable d)
    ∧ ∀ u : Unfolded, (t.unfoldSubject s).value = .ok u → u.query.IsSearchable d := by
  constructor
  · intro subject u h
    obtain ⟨p, hp, hq, -⟩ := unfold_eq_some_iff.mp h
    have hon := (reached_of_unfoldAll hp).isSearch_on hd
    have hfilter := (unrestricted_of_unfoldAll hp).filter
    rw [Query.isSearchable_iff, (columns_of_restricted? hq).2]
    refine ⟨hon, fun c hc => ?_⟩
    cases subject with
    | none =>
      have hquery : p.query = u.query := Option.some.inj hq
      rw [← hquery, hfilter] at hc
      cases hc
    | some value =>
      obtain ⟨condition, hcondition, hrestrict⟩ := Option.map_eq_some_iff.mp hq
      rw [← hrestrict, Query.restrict, hfilter] at hc
      obtain rfl := Option.some.inj hc
      exact TermMap.isSearch_of_conditionFor? hd hcondition
  · intro u h
    obtain ⟨p, hp, rfl⟩ := unfoldSubject_eq_ok_iff.mp h
    have hfilter := (Progress.unrestricted_addBase hp).filter
    refine Query.isSearchable_iff.mpr ⟨(Progress.reached_addBase hp).isSearch_on hd, fun c hc => ?_⟩
    rw [hfilter] at hc
    cases hc

end TriplesMap

end TriplesSql
