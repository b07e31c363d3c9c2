import TriplesSql.Command.Run
import TriplesSql.Proofs.Unfold.Agreement
import TriplesSql.Proofs.Unfold.History

/-!
# Documents that are unfolded again

What a document gives does not depend on what is on record, so a second pass merges the names of the
first pass once more. Merging many registries is merging their merge, so the second pass changes
nothing, also where rules with one name overwrite what they record. Where names are distinct no rule
overwrites what another one recorded: the names of each rule are known behind a pass, and so are
those of its subject, which are among them.
-/

namespace TriplesSql

namespace Registry

instance : Std.Associative merge := ⟨merge_assoc⟩

theorem foldl_merge_eq (rs : List Registry) (r : Registry) :
    rs.foldl merge r = r.merge (rs.foldl merge ∅) := by
  calc rs.foldl merge r
      = rs.foldl merge (r.merge ∅) := by rw [merge_empty]
    _ = r.merge (rs.foldl merge ∅) := List.foldl_assoc

theorem foldl_merge_twice (rs : List Registry) (r : Registry) :
    rs.foldl merge (rs.foldl merge r) = rs.foldl merge r := by
  rw [foldl_merge_eq rs (rs.foldl merge r), foldl_merge_eq rs r, merge_merge_self]

theorem foldl_merge_of_knows {rs : List Registry} {r : Registry} (h : ∀ r' ∈ rs, r.Knows r') :
    rs.foldl merge r = r := by
  induction rs with
  | nil => rfl
  | cons r' rs ih =>
    rw [List.foldl_cons, (h r' List.mem_cons_self).merge_eq]
    exact ih fun r'' hr => h r'' (List.mem_cons_of_mem r' hr)

end Registry

namespace TriplesMap

variable [SqlReader] {t : TriplesMap} {s : Settings} {r : Unfolded}

theorem registry_eq_of_unfold {value value' : Option String} {r' : Unfolded}
    (h : (t.unfold s value).value = .ok (some r))
    (h' : (t.unfold s value').value = .ok (some r')) : r'.registry = r.registry := by
  obtain ⟨p, hp, -, hr⟩ := unfold_eq_some_iff.mp h
  obtain ⟨p', hp', -, hr'⟩ := unfold_eq_some_iff.mp h'
  obtain rfl := Except.ok.inj (hp.symm.trans hp')
  rw [hr, hr']

theorem within_of_unfoldSubject {value : Option String} {v : Unfolded}
    (h : (t.unfold s value).value = .ok (some r)) (hv : (t.unfoldSubject s).value = .ok v) :
    v.registry.Within r.registry := by
  obtain ⟨p, hp, -, hr⟩ := unfold_eq_some_iff.mp h
  obtain ⟨v', hv', hbegins⟩ := exists_begins_of_unfoldAll hp
  obtain rfl := Except.ok.inj (hv.symm.trans hv')
  rw [hr]
  exact hbegins.registry

end TriplesMap

namespace Unfolder

variable {s : Settings} {t : TriplesMap}

section reader

variable [SqlReader]

theorem mem_names_rule_iff {value : Option String} {registry : Registry} :
    registry ∈ (Call.rule t value).names s
      ↔ ∃ r, (t.unfold s value).value = .ok (some r) ∧ r.registry = registry := by
  simp only [Call.names, Option.mem_toList, Option.map_eq_some_iff,
    TriplesMap.unfolded?_eq_some_iff]

theorem mem_names_subject_iff {registry : Registry} :
    registry ∈ (Call.subject t).names s
      ↔ ∃ v, (t.unfoldSubject s).value = .ok v ∧ v.registry = registry := by
  simp only [Call.names, Option.mem_toList, Option.map_eq_some_iff, TriplesMap.unfoldedSubject?]
  cases (t.unfoldSubject s).value with
  | error e => simp [Except.toOption]
  | ok v => simp [Except.toOption]

theorem call_of_knows {u : Unfolder} {c : Call}
    (h : ∀ registry ∈ c.names u.settings, u.registry.Knows registry) : u.call c = u := by
  rw [call_eq, Registry.foldl_merge_of_knows h]

theorem unfoldDocument_settings (u : Unfolder) (d : Document) :
    (u.unfoldDocument d).value.2.settings = u.settings := by
  rw [unfoldDocument_eq]

theorem knows_unfoldDocument {u : Unfolder} {d : Document} (hids : (d.rules.map (·.id)).Nodup)
    (ht : t ∈ d.rules) {r : Unfolded} (hr : (t.unfold u.settings none).value = .ok (some r)) :
    (u.unfoldDocument d).value.2.registry.Knows r.registry := by
  obtain ⟨before, after, hrules⟩ := List.append_of_mem ht
  -- the rule can as well be the last one
  have hperm : d.rules.Perm (before ++ after ++ [t]) := by
    rw [hrules, List.append_assoc]
    exact (List.perm_append_singleton t after).symm.append_left before
  have hnames : namesOf u.settings (before ++ after ++ [t])
      = namesOf u.settings (before ++ after) ++ [r.registry] := by
    simp only [namesOf, List.filterMap_append, List.filterMap_cons, List.filterMap_nil,
      TriplesMap.unfolded?_eq_some_iff.mpr hr, Option.map_some]
  rw [unfoldDocument_eq, foldl_namesOf_perm u.settings hids hperm, hnames, List.foldl_append]
  exact Registry.knows_merge _ r.registry

/-- A second pass over a document gives the queries of the first one and leaves all names as they
are. Where names of rules are distinct, the same holds when a rule that gave a query is unfolded
once more: whole, for a subject that is asked for, or for its subject alone. -/
theorem unfoldDocument_again (u : Unfolder) (d : Document) :
    ((u.unfoldDocument d).value.2.unfoldDocument d).value = (u.unfoldDocument d).value
    ∧ ((d.rules.map (·.id)).Nodup → ∀ t ∈ d.rules, t.id ∈ (u.unfoldDocument d).value.1 →
      (∀ value, ((u.unfoldDocument d).value.2.unfoldRule t value).value.2
        = (u.unfoldDocument d).value.2)
      ∧ ((u.unfoldDocument d).value.2.unfoldSubject t).value.2
        = (u.unfoldDocument d).value.2) := by
  constructor
  · simp only [unfoldDocument_eq, Registry.foldl_merge_twice]
  · intro hids t ht hid
    obtain ⟨t', ht', hid', hunfoldable⟩ := (u.unfoldDocument_outcome d).1 t.id |>.mp hid
    obtain rfl := eq_of_mem_of_id_eq hids ht' ht hid'
    obtain ⟨r, hr⟩ := (TriplesMap.exists_unfolded?_iff (s := u.settings)).mpr hunfoldable
    rw [TriplesMap.unfolded?_eq_some_iff] at hr
    have hknows := knows_unfoldDocument hids ht hr
    rw [← unfoldDocument_settings u d] at hr
    constructor
    · intro value
      refine call_of_knows (c := .rule t' value) fun registry hregistry => ?_
      obtain ⟨r', hr', rfl⟩ := mem_names_rule_iff.mp hregistry
      rw [TriplesMap.registry_eq_of_unfold hr hr']
      exact hknows
    · refine call_of_knows (c := .subject t') fun registry hregistry => ?_
      obtain ⟨v, hv, rfl⟩ := mem_names_subject_iff.mp hregistry
      exact hknows.trans (TriplesMap.within_of_unfoldSubject hr hv).knows

end reader

def divertedRule : TriplesMap :=
  { joiningRule with predicateObjects := (joiningRule.predicateObjects.filter
    (·.reference?.isSome)) }

def doubledTimetable : Document := ⟨[joiningRule, strandedRule, divertedRule]⟩

theorem unfoldDocument_again_timetable :
    joiningRule.joins.map Prod.fst = [1, 3] ∧ divertedRule.joins.map Prod.fst = [0, 1]
    ∧ (startedUnfolder.unfoldDocument doubledTimetable).value.2.registry.references[
      TermAddress.reference "Flight" 1]? = some "T3"
    ∧ ((startedUnfolder.unfoldDocument doubledTimetable).value.2.unfoldDocument
      doubledTimetable).value = (startedUnfolder.unfoldDocument doubledTimetable).value
    ∧ "Flight" ∈ (startedUnfolder.unfoldDocument timetable).value.1
    ∧ ((startedUnfolder.unfoldDocument timetable).value.2.unfoldRule joiningRule
      (some "7")).value.1.toOption.join.isSome = true
    ∧ ((startedUnfolder.unfoldDocument timetable).value.2.unfoldRule joiningRule
      (some "7")).value.2 = (startedUnfolder.unfoldDocument timetable).value.2
    ∧ ((startedUnfolder.unfoldDocument timetable).value.2.unfoldSubject joiningRule).value.2
      = (startedUnfolder.unfoldDocument timetable).value.2 := by
  have hids : (timetable.rules.map (·.id)).Nodup := by decide
  have hgiven : "Flight" ∈ (startedUnfolder.unfoldDocument timetable).value.1 := by
    decide +kernel
  obtain ⟨hdoubled, -⟩ := unfoldDocument_again startedUnfolder doubledTimetable
  obtain ⟨-, hagain⟩ := unfoldDocument_again startedUnfolder timetable
  obtain ⟨hrule, hsubject⟩ := hagain hids joiningRule List.mem_cons_self hgiven
  exact ⟨by decide, by decide, by decide +kernel, hdoubled, hgiven, by decide +kernel,
    hrule (some "7"), hsubject⟩

end Unfolder

end TriplesSql
