import TriplesSql.Proofs.Unfold.Algebra
import TriplesSql.Proofs.Unfold.Completeness

/-!
# Queries in the order of names

The queries of a document with distinct names of rules are listed by these names, one for each rule
that can be unfolded, whatever becomes of the others. The names that are on record then are those
given in the listed queries: each of them is found at its address, and there are no others.
-/

namespace TriplesSql

open Std

section maps

variable {α β : Type} [Ord α] [TransOrd α]

theorem or_getElem?_eq_some_iff {m m' : ExtTreeMap α β} (h : ∀ k, k ∈ m' → k ∉ m) (k : α) (v : β) :
    m[k]?.or m'[k]? = some v ↔ m'[k]? = some v ∨ m[k]? = some v := by
  cases hk : m[k]? with
  | none => simp
  | some u =>
    have hnone : m'[k]? = none :=
      ExtTreeMap.getElem?_eq_none fun hk' => h k hk' (mem_iff_exists_getElem?.mpr ⟨u, hk⟩)
    simp [hnone]

theorem not_mem_of_collected {ι : Type} {part : ι → ExtTreeMap α β} {rs : List ι}
    {m m' : ExtTreeMap α β}
    (hm : ∀ (k : α) (v : β), m[k]? = some v ↔ ∃ r ∈ rs, (part r)[k]? = some v)
    (hparts : ∀ r ∈ rs, ∀ k, k ∈ part r → k ∉ m') (k : α) (hk : k ∈ m) : k ∉ m' := by
  obtain ⟨v, hv⟩ := mem_iff_exists_getElem?.mp hk
  obtain ⟨r, hr, hfound⟩ := (hm k v).mp hv
  exact hparts r hr k (mem_iff_exists_getElem?.mpr ⟨v, hfound⟩)

end maps

namespace Registry

variable {r r' : Registry} {rs rs' : List Registry}

/-- A registry has what some registries have, and nothing else. -/
structure Collects (r : Registry) (rs : List Registry) : Prop where
  terms : ∀ (k : TermAddress) names,
    r.terms[k]? = some names ↔ ∃ r' ∈ rs, r'.terms[k]? = some names
  references : ∀ (k : TermAddress) label,
    r.references[k]? = some label ↔ ∃ r' ∈ rs, r'.references[k]? = some label
  predicateObjects : ∀ (k : PredicateObjectAddress) label,
    r.predicateObjects[k]? = some label ↔ ∃ r' ∈ rs, r'.predicateObjects[k]? = some label
  tables : ∀ (rule : String) label,
    r.tables[rule]? = some label ↔ ∃ r' ∈ rs, r'.tables[rule]? = some label

theorem collects_empty : Collects ∅ [] where
  terms _ _ := ⟨nofun, fun ⟨_, hr, _⟩ => nomatch hr⟩
  references _ _ := ⟨nofun, fun ⟨_, hr, _⟩ => nomatch hr⟩
  predicateObjects _ _ := ⟨nofun, fun ⟨_, hr, _⟩ => nomatch hr⟩
  tables _ _ := ⟨nofun, fun ⟨_, hr, _⟩ => nomatch hr⟩

theorem Collects.perm (h : r.Collects rs) (hperm : rs.Perm rs') : r.Collects rs' where
  terms := by simpa only [hperm.mem_iff] using h.terms
  references := by simpa only [hperm.mem_iff] using h.references
  predicateObjects := by simpa only [hperm.mem_iff] using h.predicateObjects
  tables := by simpa only [hperm.mem_iff] using h.tables

theorem Collects.apart (h : r.Collects rs) (hapart : ∀ x ∈ rs, x.Apart r') : r.Apart r' where
  terms := not_mem_of_collected h.terms fun x hx => (hapart x hx).terms
  references := not_mem_of_collected h.references fun x hx => (hapart x hx).references
  predicateObjects :=
    not_mem_of_collected h.predicateObjects fun x hx => (hapart x hx).predicateObjects
  tables := not_mem_of_collected h.tables fun x hx => (hapart x hx).tables

theorem Apart.terms_merge (h : r.Apart r') (htidy : r'.Tidy) (k : TermAddress) :
    (r.merge r').terms[k]? = r'.terms[k]?.or r.terms[k]? := by
  rw [Registry.terms_merge]
  cases hk : r'.terms[k]? with
  | none => rfl
  | some names =>
    have hnone : r.terms[k]? = none := ExtTreeMap.getElem?_eq_none fun hr =>
      h.terms k hr (mem_iff_exists_getElem?.mpr ⟨names, hk⟩)
    obtain ⟨hne, hnodup⟩ := htidy k names hk
    rw [Option.elim_some, hnone, withNames_of_ne_nil hne]
    exact congrArg some (appendNew_nil hnodup)

theorem Collects.merge (h : r.Collects rs) (hapart : r.Apart r') (htidy : r'.Tidy) :
    (r.merge r').Collects (rs ++ [r']) := by
  have hmem {p : Registry → Prop} : (∃ x ∈ rs ++ [r'], p x) ↔ (∃ x ∈ rs, p x) ∨ p r' := by
    simp [or_and_right, exists_or]
  constructor
  · intro k names
    rw [hapart.terms_merge htidy, or_getElem?_eq_some_iff hapart.terms, hmem, h.terms]
  · intro k label
    rw [references_merge, or_getElem?_eq_some_iff hapart.references, hmem, h.references]
  · intro k label
    rw [predicateObjects_merge, or_getElem?_eq_some_iff hapart.predicateObjects, hmem,
      h.predicateObjects]
  · intro rule label
    rw [tables_merge, or_getElem?_eq_some_iff hapart.tables, hmem, h.tables]

theorem collects_foldl_merge (hapart : rs.Pairwise Apart) (htidy : ∀ r ∈ rs, r.Tidy) :
    (rs.foldl Registry.merge ∅).Collects rs := by
  induction rs using List.reverseRecOn with
  | nil => exact collects_empty
  | append_singleton rs r ih =>
    obtain ⟨hfront, -, hlast⟩ := List.pairwise_append.mp hapart
    have hcollects := ih hfront fun x hx => htidy x (List.mem_append_left [r] hx)
    have hr : r ∈ rs ++ [r] := List.mem_append_right rs List.mem_cons_self
    rw [List.foldl_append, List.foldl_cons, List.foldl_nil]
    exact hcollects.merge (hcollects.apart fun x hx => hlast x hx r List.mem_cons_self) (htidy r hr)

end Registry

namespace Progress

theorem tidy_addColumn {p : Progress} (h : p.registry.Tidy) (s : Settings) (a : TermAddress)
    (table reference : String) : (p.addColumn s a table reference).registry.Tidy := by
  cases hc : OutputColumn.ofReference? reference table with
  | none =>
    rw [addColumn_of_none hc]
    exact h
  | some c =>
    rw [addColumn_registry hc]
    exact h.recordTerm a _

theorem tidy_foldl {p : Progress} (h : p.registry.Tidy) (s : Settings) (reads : List TermRead) :
    (reads.foldl (projectRead s) p).registry.Tidy := by
  refine List.foldlRecOn (motive := fun q : Progress => q.registry.Tidy) reads _ h ?_
  intro q hq r _
  exact List.foldlRecOn (motive := fun q : Progress => q.registry.Tidy) r.references _ hq
    fun q hq reference _ => tidy_addColumn hq s r.address r.source reference

end Progress

variable [SqlReader]

namespace TriplesMap

variable {t : TriplesMap} {s : Settings} {subject : Option String} {u : Unfolded}

theorem tidy_of_unfold (h : (t.unfold s subject).value = .ok (some u)) : u.registry.Tidy := by
  obtain ⟨p, hp, -, -, hreg⟩ := unfold_eq_some h
  intro k names hnames
  rw [hreg, (reached_of_unfoldAll hp).names.terms] at hnames
  exact Progress.tidy_foldl Registry.tidy_empty s _ k names hnames

theorem exists_unfold_eq_error_iff :
    (∃ e, (t.unfold s subject).value = .error e) ↔ ¬t.IsUnfoldable := by
  have hfailure := t.failure?_unfoldAll s
  rw [← obstacle?_eq_none_iff, ← hfailure, unfold_value]
  cases t.unfoldAll s with
  | error stop => simp [failure?]
  | ok p => simp [failure?]

end TriplesMap

/-- The queries of a document in the order of names: one for each rule that can be unfolded, and for
no other rule. -/
structure Document.IsListed (d : Document) (s : Settings) (us : List (TriplesMap × Unfolded)) :
    Prop where
  rules : (us.map (·.1)).Perm (d.rules.filter (·.IsUnfoldable))
  ascending : us.Pairwise fun u v => u.1.id < v.1.id
  unfolded : ∀ u ∈ us, (u.1.unfold s none).value = .ok (some u.2)

namespace Unfolder

variable {s : Settings} {ts : List TriplesMap}

theorem pairwise_apart_namesOf (hids : (ts.map (·.id)).Nodup) :
    (namesOf s ts).Pairwise Registry.Apart := by
  rw [List.nodup_iff_pairwise_ne, List.pairwise_map] at hids
  refine List.Pairwise.filterMap _ (fun t t' hne r hr r' hr' => ?_) hids
  simp only [Option.map_eq_some_iff, TriplesMap.unfolded?_eq_some_iff] at hr hr'
  obtain ⟨u, hu, rfl⟩ := hr
  obtain ⟨u', hu', rfl⟩ := hr'
  exact (TriplesMap.ownedBy_of_unfold hu).apart (TriplesMap.ownedBy_of_unfold hu') hne

theorem collects_namesOf (hids : (ts.map (·.id)).Nodup) :
    ((namesOf s ts).foldl Registry.merge ∅).Collects (namesOf s ts) := by
  refine Registry.collects_foldl_merge (pairwise_apart_namesOf hids) fun r hr => ?_
  obtain ⟨t, -, u, hu, rfl⟩ := mem_namesOf_iff.mp hr
  exact TriplesMap.tidy_of_unfold hu

def unfoldings (s : Settings) (ts : List TriplesMap) : List (TriplesMap × Unfolded) :=
  ts.filterMap fun t => (t.unfolded? s none).map (t, ·)

theorem mem_unfoldings_iff {e : TriplesMap × Unfolded} :
    e ∈ unfoldings s ts ↔ e.1 ∈ ts ∧ (e.1.unfold s none).value = .ok (some e.2) := by
  obtain ⟨t, u⟩ := e
  simp [unfoldings, TriplesMap.unfolded?_eq_some_iff]

theorem map_fst_unfoldings : (unfoldings s ts).map (·.1) = ts.filter (·.IsUnfoldable) := by
  have hfound (t : TriplesMap) : ((t.unfolded? s none).map (t, ·)).map (·.1)
      = Option.guard (fun t => decide t.IsUnfoldable) t := by
    by_cases ht : t.IsUnfoldable
    · obtain ⟨u, hu⟩ := (TriplesMap.exists_unfolded?_iff (s := s)).mpr ht
      simp [hu, ht, Option.guard]
    · have hnone : t.unfolded? s none = none := by
        rw [← Option.not_isSome_iff_eq_none, Option.isSome_iff_exists,
          TriplesMap.exists_unfolded?_iff]
        exact ht
      simp [hnone, ht, Option.guard]
  simp only [unfoldings, List.map_filterMap, hfound]
  rw [← List.filterMap_eq_filter]

theorem map_registry_unfoldings : (unfoldings s ts).map (·.2.registry) = namesOf s ts := by
  simp only [unfoldings, namesOf, List.map_filterMap, Option.map_map]
  rfl

theorem exists_isListed (s : Settings) {d : Document} (hids : (d.rules.map (·.id)).Nodup) :
    ∃ us, us.Perm (unfoldings s d.rules) ∧ d.IsListed s us := by
  let us := (unfoldings s d.rules).mergeSort fun u v => decide (u.1.id ≤ v.1.id)
  have hperm : us.Perm (unfoldings s d.rules) := List.mergeSort_perm _ _
  have hrules : (us.map (·.1)).Perm (d.rules.filter (·.IsUnfoldable)) := by
    rw [← map_fst_unfoldings]
    exact hperm.map _
  have hsorted : us.Pairwise fun u v => decide (u.1.id ≤ v.1.id) = true :=
    List.pairwise_mergeSort
      (fun u v w huv hvw => by
        simpa using String.le_trans (of_decide_eq_true huv) (of_decide_eq_true hvw))
      (fun u v => by simpa using String.le_total u.1.id v.1.id) _
  have hdistinct : us.Pairwise fun u v => u.1.id ≠ v.1.id := by
    have hnodup : ((us.map (·.1)).map (·.id)).Nodup :=
      (hrules.map (·.id)).nodup_iff.mpr (hids.sublist (List.filter_sublist.map _))
    simpa only [List.nodup_iff_pairwise_ne, List.pairwise_map] using hnodup
  refine ⟨us, hperm, hrules, ?_, fun u hu => (mem_unfoldings_iff.mp (hperm.mem_iff.mp hu)).2⟩
  exact (hsorted.and hdistinct).imp fun ⟨hle, hne⟩ => Std.lt_of_le_of_ne (of_decide_eq_true hle) hne

theorem mem_toList_foldl_addQuery_iff (hids : (ts.map (·.id)).Nodup) {e : String × Query} :
    e ∈ (ts.foldl (addQuery s) ∅).toList
      ↔ ∃ u ∈ unfoldings s ts, (u.1.id, u.2.query) = e := by
  obtain ⟨id, q⟩ := e
  rw [ExtTreeMap.mem_toList_iff_getElem?_eq_some]
  constructor
  · intro hq
    obtain ⟨t, ht, rfl, hunfoldable⟩ :=
      (mem_foldl_addQuery_iff s ts id).mp (mem_iff_exists_getElem?.mpr ⟨q, hq⟩)
    obtain ⟨r, hr⟩ := (TriplesMap.exists_unfolded?_iff (s := s)).mpr hunfoldable
    rw [getElem?_foldl_addQuery_of_mem hids ht hr] at hq
    exact ⟨(t, r), mem_unfoldings_iff.mpr ⟨ht, TriplesMap.unfolded?_eq_some_iff.mp hr⟩,
      congrArg (t.id, ·) (Option.some.inj hq)⟩
  · rintro ⟨⟨t, r⟩, hu, heq⟩
    obtain ⟨rfl, rfl⟩ := Prod.mk.inj heq
    obtain ⟨ht, hr⟩ := mem_unfoldings_iff.mp hu
    exact getElem?_foldl_addQuery_of_mem hids ht (TriplesMap.unfolded?_eq_some_iff.mpr hr)

theorem toList_foldl_addQuery {d : Document} (hids : (d.rules.map (·.id)).Nodup)
    {us : List (TriplesMap × Unfolded)} (hperm : us.Perm (unfoldings s d.rules))
    (h : d.IsListed s us) :
    (d.rules.foldl (addQuery s) ∅).toList = us.map fun u => (u.1.id, u.2.query) := by
  have hkeys : (d.rules.foldl (addQuery s) ∅).toList.Pairwise fun e f => compare e.1 f.1 = .lt :=
    ExtTreeMap.ordered_keys_toList
  have hqueries : (d.rules.foldl (addQuery s) ∅).toList.Pairwise fun e f => e.1 < f.1 :=
    hkeys.imp fun hlt => compareOfLessAndEq_eq_lt.mp hlt
  have hlisted : (us.map fun u => (u.1.id, u.2.query)).Pairwise fun e f => e.1 < f.1 :=
    List.pairwise_map.mpr h.ascending
  have hnodup {es : List (String × Query)} (hes : es.Pairwise fun e f => e.1 < f.1) : es.Nodup :=
    hes.imp fun hlt heq => String.ne_of_lt hlt (congrArg Prod.fst heq)
  refine List.Perm.eq_of_pairwise (fun e f _ _ hef hfe => absurd hfe (String.lt_asymm hef)) hqueries
    hlisted ((List.perm_ext_iff_of_nodup (hnodup hqueries) (hnodup hlisted)).mpr fun e => ?_)
  rw [mem_toList_foldl_addQuery_iff hids, List.mem_map]
  simp only [hperm.mem_iff]

theorem unfoldDocument_new_listed (s : Settings) {d : Document}
    (hids : (d.rules.map (·.id)).Nodup) : ∃ us, d.IsListed s us
      ∧ ((new s).unfoldDocument d).value.1.toList = us.map (fun u => (u.1.id, u.2.query))
      ∧ ((new s).unfoldDocument d).value.2.registry.Collects (us.map (·.2.registry)) := by
  obtain ⟨us, hperm, hlisted⟩ := exists_isListed s hids
  rw [unfoldDocument_eq]
  have hnames : (namesOf s d.rules).Perm (us.map (·.2.registry)) := by
    rw [← map_registry_unfoldings]
    exact (hperm.map _).symm
  exact ⟨us, hlisted, toList_foldl_addQuery hids hperm hlisted, (collects_namesOf hids).perm hnames⟩

end Unfolder

end TriplesSql
