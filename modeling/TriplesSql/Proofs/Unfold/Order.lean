import TriplesSql.Command.Run
import TriplesSql.Proofs.Unfold.Documents
import TriplesSql.Proofs.Unfold.Restriction

/-!
# Rules in any order

All that a rule records is recorded under its own name. So where names are distinct the rules of a
document can be unfolded apart and in any order: queries and names come out the same.
-/

namespace TriplesSql

open Std

namespace Progress

theorem mem_terms_addColumn {p : Progress} {s : Settings} {a b : TermAddress}
    {table reference : String} (h : a ∈ (p.addColumn s b table reference).registry.terms) :
    a ∈ p.registry.terms ∨ b = a := by
  cases hc : OutputColumn.ofReference? reference table with
  | none =>
    rw [addColumn_of_none hc] at h
    exact Or.inl h
  | some c =>
    rw [addColumn_registry hc, ExtTreeMap.mem_iff_isSome_getElem?,
      Registry.getElem?_terms_recordTerm] at h
    by_cases hb : b = a
    · exact Or.inr hb
    · rw [if_neg hb] at h
      exact Or.inl (ExtTreeMap.mem_iff_isSome_getElem?.mpr h)

theorem mem_terms_project {p : Progress} {s : Settings} {a b : TermAddress}
    {references : List String} {table : String}
    (h : a ∈ (p.project s b references table).registry.terms) :
    a ∈ p.registry.terms ∨ b = a := by
  revert h
  refine List.foldlRecOn (motive := fun q : Progress => a ∈ q.registry.terms →
    a ∈ p.registry.terms ∨ b = a) references _ Or.inl ?_
  intro q hq reference _ h
  rcases mem_terms_addColumn h with h | h
  · exact hq h
  · exact Or.inr h

theorem mem_terms_foldl {p : Progress} {s : Settings} {a : TermAddress} {reads : List TermRead}
    (h : a ∈ (reads.foldl (projectRead s) p).registry.terms) :
    a ∈ p.registry.terms ∨ ∃ r ∈ reads, r.address = a := by
  revert h
  refine List.foldlRecOn (motive := fun q : Progress => a ∈ q.registry.terms →
    a ∈ p.registry.terms ∨ ∃ r ∈ reads, r.address = a) reads _ Or.inl ?_
  intro q hq r hr h
  rcases mem_terms_project h with h | h
  · exact hq h
  · exact Or.inr ⟨r, hr, h⟩

end Progress

theorem PredicateObjectMap.rule_of_mem_reads {m : PredicateObjectMap} {rule : String} {index : Nat}
    {baseAlias parentAlias : String} {r : TermRead}
    (h : r ∈ m.reads rule index baseAlias parentAlias) : r.address.rule = rule := by
  unfold reads termReads at h
  simp only [List.mem_append, Option.mem_toList, Option.map_eq_some_iff] at h
  rcases h with (⟨_, -, rfl⟩ | ⟨_, -, rfl⟩) | ⟨_, -, rfl⟩ <;> rfl

theorem TriplesMap.rule_of_mem_readsUpTo {t : TriplesMap} {s : Settings} {n : Nat} {r : TermRead}
    (h : r ∈ t.readsUpTo s n) : r.address.rule = t.id := by
  rcases List.mem_cons.mp h with rfl | h
  · rfl
  · obtain ⟨⟨m, index⟩, -, hr⟩ := List.mem_flatMap.mp h
    exact PredicateObjectMap.rule_of_mem_reads hr

theorem TriplesMap.ownedBy_of_unfold [SqlReader] {t : TriplesMap} {s : Settings}
    {subject : Option String} {u : Unfolded} (h : (t.unfold s subject).value = .ok (some u)) :
    u.registry.OwnedBy t.id := by
  obtain ⟨p, hp, -, -, hreg⟩ := unfold_eq_some h
  have hr := reached_of_unfoldAll hp
  rw [hreg]
  constructor
  · intro a ha
    rw [hr.names.terms] at ha
    rcases Progress.mem_terms_foldl ha with ha | ⟨r, hread, rfl⟩
    · exact absurd ha ExtTreeMap.not_mem_empty
    · exact rule_of_mem_readsUpTo hread
  · intro a ha
    obtain ⟨label, hl⟩ := mem_iff_exists_getElem?.mp ha
    obtain ⟨j, i, -, rfl, -⟩ := (hr.references a label).mp hl
    rfl
  · intro a ha
    obtain ⟨label, hl⟩ := mem_iff_exists_getElem?.mp ha
    obtain ⟨j, i, -, rfl, -⟩ := (hr.predicateObjects a label).mp hl
    rfl
  · intro rule ha
    obtain ⟨label, hl⟩ := mem_iff_exists_getElem?.mp ha
    exact ((hr.tables rule label).mp hl).1

namespace Unfolder

variable {ts ts' : List TriplesMap}

theorem eq_of_mem_of_id_eq (hids : (ts.map (·.id)).Nodup) {t t' : TriplesMap} (ht : t ∈ ts)
    (ht' : t' ∈ ts) (hid : t.id = t'.id) : t = t' :=
  List.inj_on_of_nodup_map hids ht ht' hid

theorem foldl_absorb (rs : List Unfolded) (u : Unfolder) :
    rs.foldl (fun v r => v.absorb r.registry) u
      = ⟨u.settings, (rs.map (·.registry)).foldl Registry.merge u.registry⟩ := by
  induction rs generalizing u with
  | nil => rfl
  | cons r rs ih => exact ih (u.absorb r.registry)

section reader

variable [SqlReader]

theorem foldl_addQuery_perm (s : Settings) (hids : (ts.map (·.id)).Nodup) (h : ts.Perm ts')
    (queries : Queries) : ts.foldl (addQuery s) queries = ts'.foldl (addQuery s) queries := by
  refine h.foldl_eq' ?_ queries
  intro t ht t' ht' queries
  by_cases hid : t.id = t'.id
  · rw [eq_of_mem_of_id_eq hids ht ht' hid]
  · apply ExtTreeMap.ext_getElem?
    intro id
    simp only [getElem?_addQuery]
    by_cases hl : t.id = id
    · have hr : t'.id ≠ id := fun hr => hid (hl.trans hr.symm)
      simp only [if_pos hl, if_neg hr]
    · simp only [if_neg hl]

theorem mem_namesOf_iff {s : Settings} {r : Registry} :
    r ∈ namesOf s ts ↔ ∃ t ∈ ts, ∃ u, (t.unfold s none).value = .ok (some u) ∧ u.registry = r := by
  simp only [namesOf, List.mem_filterMap, Option.map_eq_some_iff, TriplesMap.unfolded?_eq_some_iff]

theorem foldl_namesOf_perm (s : Settings) (hids : (ts.map (·.id)).Nodup) (h : ts.Perm ts')
    (r : Registry) :
    (namesOf s ts).foldl Registry.merge r = (namesOf s ts').foldl Registry.merge r := by
  refine (h.filterMap _).foldl_eq' ?_ r
  intro a ha b hb r
  obtain ⟨t, ht, u, hu, rfl⟩ := mem_namesOf_iff.mp ha
  obtain ⟨t', ht', u', hu', rfl⟩ := mem_namesOf_iff.mp hb
  by_cases hid : t.id = t'.id
  · obtain rfl := eq_of_mem_of_id_eq hids ht ht' hid
    rw [hu] at hu'
    obtain rfl := Option.some.inj (Except.ok.inj hu')
    rfl
  · have hapart := (TriplesMap.ownedBy_of_unfold hu).apart (TriplesMap.ownedBy_of_unfold hu') hid
    exact hapart.merge_right_comm r

/-- Where names of rules are distinct, the rules can be unfolded apart, with the names that they
give taken over in any order, and the document can list them in any order. -/
theorem unfoldDocument_perm (u : Unfolder) (d : Document) (hids : (d.rules.map (·.id)).Nodup)
    (ts : List TriplesMap) (h : d.rules.Perm ts) :
    ((ts.filterMap (·.unfolded? u.settings none)).foldl (fun v r => v.absorb r.registry) u).registry
      = (u.unfoldDocument d).value.2.registry
    ∧ (u.unfoldDocument ⟨ts⟩).value.1 = (u.unfoldDocument d).value.1
    ∧ (u.unfoldDocument ⟨ts⟩).value.2.registry = (u.unfoldDocument d).value.2.registry := by
  rw [unfoldDocument_eq, unfoldDocument_eq, foldl_absorb, List.map_filterMap]
  refine ⟨?_, ?_, ?_⟩
  · exact (foldl_namesOf_perm u.settings hids h u.registry).symm
  · exact (foldl_addQuery_perm u.settings hids h ∅).symm
  · exact (foldl_namesOf_perm u.settings hids h u.registry).symm

end reader

theorem unfoldDocument_perm_timetable :
    (([crowdedRule, strandedRule, joiningRule].filterMap (·.unfolded? {} none)).foldl
        (fun v r => v.absorb r.registry) startedUnfolder).registry
      = (startedUnfolder.unfoldDocument timetable).value.2.registry
    ∧ (startedUnfolder.unfoldDocument ⟨[crowdedRule, strandedRule, joiningRule]⟩).value.1
      = (startedUnfolder.unfoldDocument timetable).value.1
    ∧ (startedUnfolder.unfoldDocument timetable).value.2.registry.terms[TermAddress.subject "Emp"]?
      = some ["E1", "T1_a_b"] := by
  have hids : (timetable.rules.map (·.id)).Nodup := by decide
  have hperm : timetable.rules.Perm [crowdedRule, strandedRule, joiningRule] := by decide
  obtain ⟨hnames, hqueries, -⟩ := unfoldDocument_perm startedUnfolder timetable hids _ hperm
  exact ⟨hnames, hqueries, by decide +kernel⟩

end Unfolder

end TriplesSql
