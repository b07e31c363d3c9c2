import TriplesSql.Command.Run
import TriplesSql.Proofs.Unfold.Algebra
import TriplesSql.Proofs.Unfold.Dialects
import TriplesSql.Proofs.Unfold.Fidelity
import TriplesSql.Proofs.Unfold.Order

/-!
# Queries of one rule

The work on a rule only adds to what it has done: behind any of its predicate-object maps the state
is a beginning of the last one. So the query of the subject alone is a beginning of the query of the
rule, and the names given in it are among the names that the rule gives. A subject that is asked for
makes no difference but for the filter, which comes last, and none to an error.
-/

namespace TriplesSql

open Std

/-- Each entry of a registry is an entry of another one. -/
structure Registry.Within (r r' : Registry) : Prop where
  terms : ∀ (k : TermAddress) names, r.terms[k]? = some names → r'.terms[k]? = some names
  references : ∀ (k : TermAddress) label, r.references[k]? = some label →
    r'.references[k]? = some label
  predicateObjects : ∀ (k : PredicateObjectAddress) label,
    r.predicateObjects[k]? = some label → r'.predicateObjects[k]? = some label
  tables : ∀ (rule : String) label, r.tables[rule]? = some label → r'.tables[rule]? = some label

theorem Registry.Within.knows {r r' : Registry} (h : r.Within r') : r'.Knows r where
  terms k := by
    cases hk : r.terms[k]? with
    | none => exact List.nil_subset _
    | some names =>
      rw [h.terms k names hk]
      exact List.Subset.refl _
  references := h.references
  predicateObjects := h.predicateObjects
  tables := h.tables

theorem Binds.mono {α : Type} [Ord α] [TransOrd α] {names names' : ExtTreeMap α String}
    {key : Nat → α} {label : Nat → String} {indices indices' : List Nat}
    (h : Binds names key label indices) (h' : Binds names' key label indices')
    (hbegin : indices <+: indices') (a : α) (l : String) (hl : names[a]? = some l) :
    names'[a]? = some l := by
  obtain ⟨j, i, hj, ha, hlabel⟩ := (h a l).mp hl
  exact (h' a l).mpr ⟨j, i, getElem?_prefix_mono hbegin hj, ha, hlabel⟩

/-- A query is a beginning of another one, and its names are among the names of that one. -/
structure Unfolded.Begins (v r : Unfolded) : Prop where
  sources : v.query.sources <+: r.query.sources
  outputs : v.query.outputs <+: r.query.outputs
  registry : v.registry.Within r.registry

theorem Query.prefix_addOutput (q : Query) (c : OutputColumn) :
    q.outputs <+: (q.addOutput c).outputs := by
  rw [outputs_addOutput]
  split
  · exact List.prefix_rfl
  · exact List.prefix_append q.outputs [c]

theorem TriplesMap.readsUpTo_prefix (t : TriplesMap) (s : Settings) {m n : Nat} (h : m ≤ n) :
    t.readsUpTo s m <+: t.readsUpTo s n := by
  obtain ⟨rest, hrest⟩ : t.predicateObjects.take m <+: t.predicateObjects.take n :=
    List.take_prefix_take_left h
  unfold readsUpTo
  rw [← hrest, List.zipIdx_append, List.flatMap_append, ← List.cons_append]
  exact List.prefix_append _ _

namespace Progress

variable {p q : Progress} {t : TriplesMap} {s : Settings} {n : Nat} {kept : TermAddress → Prop}

structure Continues (kept : TermAddress → Prop) (p q : Progress) : Prop where
  outputs : p.query.outputs <+: q.query.outputs
  names : ∀ a, kept a → q.registry.terms[a]? = p.registry.terms[a]?

theorem Continues.refl (kept : TermAddress → Prop) (p : Progress) : p.Continues kept p :=
  ⟨List.prefix_rfl, fun _ _ => rfl⟩

theorem Continues.trans {r : Progress} (h : p.Continues kept q) (h' : q.Continues kept r) :
    p.Continues kept r :=
  ⟨h.outputs.trans h'.outputs, fun a ha => (h'.names a ha).trans (h.names a ha)⟩

theorem addColumn_continues {b : TermAddress} (hb : ¬kept b) (p : Progress) (s : Settings)
    (table reference : String) : p.Continues kept (p.addColumn s b table reference) := by
  cases hc : OutputColumn.ofReference? reference table with
  | none =>
    rw [addColumn_of_none hc]
    exact Continues.refl kept p
  | some c =>
    constructor
    · rw [addColumn_query hc]
      exact p.query.prefix_addOutput _
    · intro a ha
      have hne : b ≠ a := fun he => hb (he ▸ ha)
      rw [addColumn_registry hc, Registry.getElem?_terms_recordTerm, if_neg hne]

theorem foldl_continues (kept : TermAddress → Prop) {reads : List TermRead}
    (h : ∀ r ∈ reads, ¬kept r.address) (p : Progress) (s : Settings) :
    p.Continues kept (reads.foldl (projectRead s) p) := by
  refine List.foldlRecOn (motive := (p.Continues kept ·)) reads _ (Continues.refl kept p) ?_
  intro q hq r hr
  refine hq.trans ?_
  refine List.foldlRecOn (motive := (q.Continues kept ·)) r.references _ (Continues.refl kept q) ?_
  intro q' hq' reference _
  exact hq'.trans (addColumn_continues (h r hr) q' s r.source reference)

variable [SqlReader]

theorem Reached.continues (hp : p.Reached t s n) (hn : n ≤ t.predicateObjects.length)
    (hq : q.Reached t s t.predicateObjects.length) :
    p.Continues (∃ r ∈ t.readsUpTo s n, r.address = ·) q := by
  obtain ⟨rest, hrest⟩ := t.readsUpTo_prefix s hn
  have hreads := t.pairwise_reads s
  rw [TriplesMap.reads, ← hrest, List.pairwise_append] at hreads
  obtain ⟨-, -, hnew⟩ := hreads
  have hnames := hq.names
  rw [← hrest, List.foldl_append] at hnames
  have hfold := foldl_continues (∃ r ∈ t.readsUpTo s n, r.address = ·)
    (fun r' hr' ⟨r, hr, he⟩ => hnew r hr r' hr' he)
    ((t.readsUpTo s n).foldl (projectRead s) (start s.dialect [])) s
  constructor
  · rw [hp.names.outputs, hnames.outputs]
    exact hfold.outputs
  · rw [hp.names.terms, hnames.terms]
    exact hfold.names

/-- Behind any of its predicate-object maps the work on a rule is a beginning of the whole. -/
theorem Reached.begins (hp : p.Reached t s n) (hn : n ≤ t.predicateObjects.length)
    (hq : q.Reached t s t.predicateObjects.length) :
    Unfolded.Begins ⟨p.query, p.registry⟩ ⟨q.query, q.registry⟩ := by
  have hcontinues := hp.continues hn hq
  have hsources := hp.sources_prefix (.refl s.dialect t) hq hn
  have hjoins := (t.joinsUpTo_prefix hn).map Prod.fst
  refine ⟨hsources, hcontinues.outputs, ?_, ?_, ?_, ?_⟩
  · intro a names hnames
    have ha : a ∈ p.registry.terms := by
      rw [Std.ExtTreeMap.mem_iff_isSome_getElem?, hnames]
      rfl
    rw [hp.names.terms] at ha
    rcases mem_terms_foldl ha with ha | hread
    · exact absurd ha ExtTreeMap.not_mem_empty
    · rw [hcontinues.names a hread]
      exact hnames
  · exact hp.references.mono hq.references hjoins
  · exact hp.predicateObjects.mono hq.predicateObjects hjoins
  · intro rule label hl
    exact (hq.tables rule label).mpr ((hp.tables rule label).mp hl)

end Progress

namespace TriplesMap

variable {t : TriplesMap} {s : Settings}

variable [SqlReader]

theorem exists_addBase_of_unfoldAll {p : Progress} (h : t.unfoldAll s = .ok p)
    (events : List Event) : ∃ p₀, (Progress.start s.dialect events).addBase s t = .ok p₀ := by
  unfold unfoldAll at h
  obtain ⟨_, hbase, -⟩ := bind_eq_ok_iff.mp h
  obtain ⟨source, hsource, -⟩ := Progress.addBase_eq_ok_iff.mp hbase
  exact ⟨_, Progress.addBase_eq_ok_iff.mpr ⟨source, hsource, rfl⟩⟩

theorem exists_begins_of_unfoldAll {p : Progress} (h : t.unfoldAll s = .ok p) :
    ∃ v : Unfolded, (t.unfoldSubject s).value = .ok v ∧ v.Begins ⟨p.query, p.registry⟩ := by
  obtain ⟨p₀, hbase⟩ := exists_addBase_of_unfoldAll h []
  exact ⟨⟨p₀.query, p₀.registry⟩, unfoldSubject_eq_ok_iff.mpr ⟨p₀, hbase, rfl⟩,
    (Progress.reached_addBase hbase).begins (Nat.zero_le _) (reached_of_unfoldAll h)⟩

theorem unfold_some_value {p : Progress} (h : t.unfoldAll s = .ok p) (value : String) :
    (t.unfold s (some value)).value = .ok ((t.subject.conditionFor? value (baseAlias s)).map
      fun condition => ⟨{ p.query with filter := some condition }, p.registry⟩) := by
  have hfilter := (unrestricted_of_unfoldAll h).filter
  have hrestrict : ∀ condition,
      p.query.restrict condition = { p.query with filter := some condition } := by
    intro condition
    rw [Query.restrict, hfilter]
  simp only [unfold_value, h, restricted?, Option.map_map, Function.comp_def, hrestrict]

end TriplesMap

namespace Unfolder

section reader

variable [SqlReader]

theorem unfoldSubject_value (u : Unfolder) {t : TriplesMap} {v : Unfolded}
    (h : (t.unfoldSubject u.settings).value = .ok v) :
    (u.unfoldSubject t).value = (.ok v.query, u.absorb v.registry) := by
  simp only [unfoldSubject, h]

/-- A rule either gives a query or ends with an error, and then with this error for any subject that
is asked for. The query of its subject alone is a beginning of its query, and the names given in the
one are names given in the other. For a subject that is asked for the names are the same and so is
the query but for the filter; there is none exactly if no row can give that subject. -/
theorem unfold_agreement (u : Unfolder) (t : TriplesMap) :
    (∃ r : Unfolded, (t.unfold u.settings none).value = .ok (some r)
      ∧ r.query.filter = none
      ∧ r.query.base?.bind (·.label) = some (TriplesMap.baseAlias u.settings)
      ∧ (∃ v : Unfolded, (t.unfoldSubject u.settings).value = .ok v
        ∧ (u.unfoldSubject t).value = (.ok v.query, u.absorb v.registry) ∧ v.Begins r)
      ∧ ∀ value, (t.unfold u.settings (some value)).value
        = .ok ((t.subject.conditionFor? value (TriplesMap.baseAlias u.settings)).map
          fun condition => ⟨{ r.query with filter := some condition }, r.registry⟩))
    ∨ ∃ e, (t.unfold u.settings none).value = .error e
      ∧ ∀ value, (t.unfold u.settings (some value)).value = .error e := by
  cases hp : t.unfoldAll u.settings with
  | error stop =>
    refine Or.inr ⟨stop.error, ?_, fun value => ?_⟩
    · rw [TriplesMap.unfold_value, hp]
    · rw [TriplesMap.unfold_value, hp]
  | ok p =>
    obtain ⟨v, hv, hbegins⟩ := TriplesMap.exists_begins_of_unfoldAll hp
    obtain ⟨source, -, hbase⟩ := (TriplesMap.reached_of_unfoldAll hp).base
    refine Or.inl ⟨⟨p.query, p.registry⟩, ?_, (TriplesMap.unrestricted_of_unfoldAll hp).filter, ?_,
      ⟨v, hv, u.unfoldSubject_value hv, hbegins⟩, TriplesMap.unfold_some_value hp⟩
    · rw [TriplesMap.unfold_value, hp]
      rfl
    · rw [Query.base?, List.head?_eq_getElem?, hbase]
      rfl

end reader

-- The rule joins a parent and reads a column of it, behind the column of the subject.
example : (sharingRule.unfoldSubject {}).value.toOption.map (fun v =>
      (v.query.sources.map (·.label), v.query.outputs.map (·.label)))
      = some ([some "T1"], [some "T1_id"])
    ∧ (sharingRule.unfold {} none).value.toOption.join.map (fun r =>
      (r.query.sources.map (·.label), r.query.outputs.map (·.label)))
      = some ([some "T1", some "T2"], [some "T1_id", some "T2_id"]) := by decide +kernel

end Unfolder

end TriplesSql
