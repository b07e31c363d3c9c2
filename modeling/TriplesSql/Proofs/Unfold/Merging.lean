import Mathlib.Data.List.Infix
import TriplesSql.Proofs.Unfold.Steps

/-!
# Merged registries

What a merge has at an address comes from what the two registries have there and from nothing else.
So a merge keeps all addresses and only appends names, and merges with registries that have no
address in common can change places.
-/

namespace TriplesSql

open Std

theorem mem_iff_exists_getElem? {α β : Type} [Ord α] [TransOrd α] {m : ExtTreeMap α β} {k : α} :
    k ∈ m ↔ ∃ v, m[k]? = some v := by
  rw [ExtTreeMap.mem_iff_isSome_getElem?, Option.isSome_iff_exists]

section entries

variable {α β γ σ : Type} [DecidableEq α] {view : σ → α → γ} {step : σ → α × β → σ}
  {combine : γ → β → γ}

theorem view_foldl_of_not_mem
    (hstep : ∀ s e k, view (step s e) k = if e.1 = k then combine (view s k) e.2 else view s k)
    {entries : List (α × β)} {k : α} (hk : ∀ e ∈ entries, e.1 ≠ k) (s : σ) :
    view (entries.foldl step s) k = view s k := by
  induction entries generalizing s with
  | nil => rfl
  | cons e entries ih =>
    have he : e.1 ≠ k := hk e List.mem_cons_self
    have hrest : ∀ e' ∈ entries, e'.1 ≠ k := fun e' he' => hk e' (List.mem_cons_of_mem e he')
    rw [List.foldl_cons, ih hrest, hstep, if_neg he]

theorem view_foldl_of_mem
    (hstep : ∀ s e k, view (step s e) k = if e.1 = k then combine (view s k) e.2 else view s k)
    {entries : List (α × β)} (hkeys : entries.Pairwise fun e e' => e.1 ≠ e'.1) {e : α × β}
    (he : e ∈ entries) (s : σ) :
    view (entries.foldl step s) e.1 = combine (view s e.1) e.2 := by
  induction entries generalizing s with
  | nil => cases he
  | cons first entries ih =>
    obtain ⟨hfirst, hrest⟩ := List.pairwise_cons.mp hkeys
    rw [List.foldl_cons]
    rcases List.mem_cons.mp he with rfl | he
    · have hnot : ∀ e' ∈ entries, e'.1 ≠ e.1 := fun e' he' => (hfirst e' he').symm
      rw [view_foldl_of_not_mem hstep hnot, hstep, if_pos rfl]
    · rw [ih hrest he, hstep, if_neg (hfirst e he)]

variable (view combine) in
/-- A state that takes over the entries of a map, in any order, changes at the keys of the map, each
time by the value there. -/
theorem view_foldl_perm [Ord α] [TransOrd α] [LawfulEqOrd α]
    (hstep : ∀ s e k, view (step s e) k = if e.1 = k then combine (view s k) e.2 else view s k)
    {entries : List (α × β)} {m : ExtTreeMap α β} (h : entries.Perm m.toList) (s : σ) (k : α) :
    view (entries.foldl step s) k = m[k]?.elim (view s k) (combine (view s k)) := by
  cases hk : m[k]? with
  | none =>
    refine view_foldl_of_not_mem hstep ?_ s
    rintro ⟨a, b⟩ he rfl
    rw [h.mem_iff, ExtTreeMap.mem_toList_iff_getElem?_eq_some, hk] at he
    cases he
  | some b =>
    have hkeys : entries.Pairwise fun e e' => e.1 ≠ e'.1 := by
      rw [h.pairwise_iff fun hne => hne.symm]
      refine ExtTreeMap.distinct_keys_toList.imp fun {e e'} hne heq => hne ?_
      exact Std.compare_eq_iff_eq.mpr heq
    have he : (k, b) ∈ entries :=
      h.mem_iff.mpr (ExtTreeMap.mem_toList_iff_getElem?_eq_some.mpr hk)
    exact view_foldl_of_mem hstep hkeys he s

end entries

theorem getElem?_foldl_insert {α β : Type} [DecidableEq α] [Ord α] [TransOrd α] [LawfulEqOrd α]
    (m : ExtTreeMap α β) {entries : List (α × β)} {m' : ExtTreeMap α β}
    (h : entries.Perm m'.toList) (k : α) :
    (entries.foldl (fun m e => m.insert e.1 e.2) m)[k]? = m'[k]?.or m[k]? := by
  have hstep : ∀ (m : ExtTreeMap α β) (e : α × β) (k : α),
      (m.insert e.1 e.2)[k]? = if e.1 = k then some e.2 else m[k]? := by
    intro m e k
    simp only [ExtTreeMap.getElem?_insert, Std.compare_eq_iff_eq]
  rw [view_foldl_perm (fun m k => m[k]?) (fun _ b => some b) hstep h]
  cases m'[k]? <;> rfl

def appendNew (names labels : List String) : List String :=
  labels.foldl (fun names label => if label ∈ names then names else names ++ [label]) names

theorem prefix_appendNew (names labels : List String) : names <+: appendNew names labels := by
  induction labels generalizing names with
  | nil => exact List.prefix_refl names
  | cons label labels ih =>
    refine List.IsPrefix.trans ?_ (ih _)
    dsimp only
    split
    · exact List.prefix_refl names
    · exact List.prefix_append names [label]

/-- What a term map has once names are recorded for it. Without names nothing is recorded. -/
def withNames (found : Option (List String)) : List String → Option (List String)
  | [] => found
  | label :: labels => some (appendNew (found.getD []) (label :: labels))

theorem withNames_some (names labels : List String) :
    withNames (some names) labels = some (appendNew names labels) := by
  cases labels <;> rfl

namespace Registry

theorem getElem?_terms_recordTerm (r : Registry) (a k : TermAddress) (label : String) :
    (r.recordTerm a label).terms[k]?
      = if a = k then withNames r.terms[k]? [label] else r.terms[k]? := by
  rw [terms_recordTerm]
  by_cases ha : a = k
  · subst ha
    rw [if_pos rfl]
    by_cases hl : label ∈ (r.terms[a]?).getD []
    · cases hfound : r.terms[a]? with
      | none => simp [hfound] at hl
      | some names =>
        rw [hfound, Option.getD_some] at hl
        simp [hfound, hl, withNames, appendNew]
    · simp [hl, withNames, appendNew]
  · rw [if_neg ha]
    split
    · rfl
    · simp only [ExtTreeMap.getElem?_insert, Std.compare_eq_iff_eq, if_neg ha]

theorem getElem?_terms_recordTerms (r : Registry) (a k : TermAddress) (labels : List String) :
    (r.recordTerms a labels).terms[k]?
      = if a = k then withNames r.terms[k]? labels else r.terms[k]? := by
  induction labels generalizing r with
  | nil => exact (ite_self _).symm
  | cons label labels ih =>
    have hcons : r.recordTerms a (label :: labels) = (r.recordTerm a label).recordTerms a labels :=
      rfl
    rw [hcons, ih, getElem?_terms_recordTerm]
    split
    · rw [withNames, withNames_some]
      rfl
    · rfl

theorem recordTerms_eq (r : Registry) (a : TermAddress) (labels : List String) :
    r.recordTerms a labels = { r with terms := (r.recordTerms a labels).terms } := by
  refine List.foldlRecOn (motive := fun q : Registry => q = { r with terms := q.terms }) labels _
    rfl ?_
  intro q hq label _
  unfold recordTerm
  split
  · exact hq
  · rw [hq]

theorem foldl_recordTerms (entries : List (TermAddress × List String)) (r : Registry) :
    entries.foldl (fun r (a, labels) => r.recordTerms a labels) r
      = { r with terms := (entries.foldl (fun r e => r.recordTerms e.1 e.2) r).terms } := by
  induction entries generalizing r with
  | nil => rfl
  | cons e entries ih =>
    refine (ih (r.recordTerms e.1 e.2)).trans ?_
    rw [List.foldl_cons, recordTerms_eq]

theorem foldl_recordReference (entries : List (TermAddress × String)) (r : Registry) :
    entries.foldl (fun r (a, label) => r.recordReference a label) r
      = { r with references := entries.foldl (fun m e => m.insert e.1 e.2) r.references } := by
  induction entries generalizing r with
  | nil => rfl
  | cons e entries ih => exact ih (r.recordReference e.1 e.2)

theorem foldl_recordPredicateObject (entries : List (PredicateObjectAddress × String))
    (r : Registry) :
    entries.foldl (fun r (a, label) => r.recordPredicateObject a label) r
      = { r with
        predicateObjects := entries.foldl (fun m e => m.insert e.1 e.2) r.predicateObjects } := by
  induction entries generalizing r with
  | nil => rfl
  | cons e entries ih => exact ih (r.recordPredicateObject e.1 e.2)

theorem foldl_recordTable (entries : List (String × String)) (r : Registry) :
    entries.foldl (fun r (rule, label) => r.recordTable rule label) r
      = { r with tables := entries.foldl (fun m e => m.insert e.1 e.2) r.tables } := by
  induction entries generalizing r with
  | nil => rfl
  | cons e entries ih => exact ih (r.recordTable e.1 e.2)

structure Entries where
  terms : List (TermAddress × List String)
  references : List (TermAddress × String)
  predicateObjects : List (PredicateObjectAddress × String)
  tables : List (String × String)

structure Entries.ListsOf (es : Entries) (r : Registry) : Prop where
  terms : es.terms.Perm r.terms.toList
  references : es.references.Perm r.references.toList
  predicateObjects : es.predicateObjects.Perm r.predicateObjects.toList
  tables : es.tables.Perm r.tables.toList

def entries (r : Registry) : Entries :=
  ⟨r.terms.toList, r.references.toList, r.predicateObjects.toList, r.tables.toList⟩

theorem entries_listsOf (r : Registry) : r.entries.ListsOf r :=
  ⟨List.Perm.rfl, List.Perm.rfl, List.Perm.rfl, List.Perm.rfl⟩

def takeOver (r : Registry) (es : Entries) : Registry :=
  let r := es.terms.foldl (fun r (a, labels) => r.recordTerms a labels) r
  let r := es.references.foldl (fun r (a, label) => r.recordReference a label) r
  let r := es.predicateObjects.foldl (fun r (a, label) => r.recordPredicateObject a label) r
  es.tables.foldl (fun r (rule, label) => r.recordTable rule label) r

theorem merge_eq_takeOver (r other : Registry) : r.merge other = r.takeOver other.entries := rfl

theorem takeOver_eq (r : Registry) (es : Entries) : r.takeOver es = {
    terms := (es.terms.foldl (fun r e => r.recordTerms e.1 e.2) r).terms
    references := es.references.foldl (fun m e => m.insert e.1 e.2) r.references
    predicateObjects :=
      es.predicateObjects.foldl (fun m e => m.insert e.1 e.2) r.predicateObjects
    tables := es.tables.foldl (fun m e => m.insert e.1 e.2) r.tables } := by
  unfold takeOver
  rw [foldl_recordTable, foldl_recordPredicateObject, foldl_recordReference, foldl_recordTerms]

section takeOver

variable {es : Entries} {other : Registry} (h : es.ListsOf other) (r : Registry)
include h

theorem Entries.ListsOf.terms_takeOver (a : TermAddress) :
    (r.takeOver es).terms[a]? = other.terms[a]?.elim r.terms[a]? (withNames r.terms[a]?) := by
  rw [takeOver_eq]
  exact view_foldl_perm (fun r a => r.terms[a]?) withNames
    (fun r e k => getElem?_terms_recordTerms r e.1 k e.2) h.terms r a

theorem Entries.ListsOf.references_takeOver (a : TermAddress) :
    (r.takeOver es).references[a]? = other.references[a]?.or r.references[a]? := by
  rw [takeOver_eq]
  exact getElem?_foldl_insert r.references h.references a

theorem Entries.ListsOf.predicateObjects_takeOver (a : PredicateObjectAddress) :
    (r.takeOver es).predicateObjects[a]?
      = other.predicateObjects[a]?.or r.predicateObjects[a]? := by
  rw [takeOver_eq]
  exact getElem?_foldl_insert r.predicateObjects h.predicateObjects a

theorem Entries.ListsOf.tables_takeOver (rule : String) :
    (r.takeOver es).tables[rule]? = other.tables[rule]?.or r.tables[rule]? := by
  rw [takeOver_eq]
  exact getElem?_foldl_insert r.tables h.tables rule

end takeOver

theorem terms_merge (r other : Registry) (a : TermAddress) :
    (r.merge other).terms[a]? = other.terms[a]?.elim r.terms[a]? (withNames r.terms[a]?) := by
  rw [merge_eq_takeOver]
  exact other.entries_listsOf.terms_takeOver r a

theorem references_merge (r other : Registry) (a : TermAddress) :
    (r.merge other).references[a]? = other.references[a]?.or r.references[a]? := by
  rw [merge_eq_takeOver]
  exact other.entries_listsOf.references_takeOver r a

theorem predicateObjects_merge (r other : Registry) (a : PredicateObjectAddress) :
    (r.merge other).predicateObjects[a]?
      = other.predicateObjects[a]?.or r.predicateObjects[a]? := by
  rw [merge_eq_takeOver]
  exact other.entries_listsOf.predicateObjects_takeOver r a

theorem tables_merge (r other : Registry) (rule : String) :
    (r.merge other).tables[rule]? = other.tables[rule]?.or r.tables[rule]? := by
  rw [merge_eq_takeOver]
  exact other.entries_listsOf.tables_takeOver r rule

theorem eq_of_getElem?_eq {r r' : Registry}
    (terms : ∀ a : TermAddress, r.terms[a]? = r'.terms[a]?)
    (references : ∀ a : TermAddress, r.references[a]? = r'.references[a]?)
    (predicateObjects :
      ∀ a : PredicateObjectAddress, r.predicateObjects[a]? = r'.predicateObjects[a]?)
    (tables : ∀ rule : String, r.tables[rule]? = r'.tables[rule]?) : r = r' := by
  cases r
  cases r'
  rw [mk.injEq]
  exact ⟨ExtTreeMap.ext_getElem? terms, ExtTreeMap.ext_getElem? references,
    ExtTreeMap.ext_getElem? predicateObjects, ExtTreeMap.ext_getElem? tables⟩

/-- Every address that one registry knows is known to the other, and term maps have the names that
they had, in front of any others. -/
structure Grows (r r' : Registry) : Prop where
  terms : ∀ (a : TermAddress) names, r.terms[a]? = some names →
    ∃ names', r'.terms[a]? = some names' ∧ names <+: names'
  references : ∀ a, a ∈ r.references → a ∈ r'.references
  predicateObjects : ∀ a, a ∈ r.predicateObjects → a ∈ r'.predicateObjects
  tables : ∀ rule, rule ∈ r.tables → rule ∈ r'.tables

theorem Grows.refl (r : Registry) : r.Grows r :=
  ⟨fun _ names h => ⟨names, h, List.prefix_refl names⟩, fun _ => id, fun _ => id, fun _ => id⟩

theorem Grows.trans {r r' r'' : Registry} (h : r.Grows r') (h' : r'.Grows r'') : r.Grows r'' := by
  refine ⟨fun a names hn => ?_, fun a ha => h'.references a (h.references a ha),
    fun a ha => h'.predicateObjects a (h.predicateObjects a ha),
    fun rule hr => h'.tables rule (h.tables rule hr)⟩
  obtain ⟨names', hn', hp⟩ := h.terms a names hn
  obtain ⟨names'', hn'', hp'⟩ := h'.terms a names' hn'
  exact ⟨names'', hn'', hp.trans hp'⟩

theorem grows_merge (r other : Registry) : r.Grows (r.merge other) := by
  constructor
  · intro a names hn
    rw [terms_merge, hn]
    cases other.terms[a]? with
    | none => exact ⟨names, rfl, List.prefix_refl names⟩
    | some labels => exact ⟨_, withNames_some names labels, prefix_appendNew names labels⟩
  · intro a ha
    rw [ExtTreeMap.mem_iff_isSome_getElem?] at ha ⊢
    rw [references_merge, Option.isSome_or, ha, Bool.or_true]
  · intro a ha
    rw [ExtTreeMap.mem_iff_isSome_getElem?] at ha ⊢
    rw [predicateObjects_merge, Option.isSome_or, ha, Bool.or_true]
  · intro rule hr
    rw [ExtTreeMap.mem_iff_isSome_getElem?] at hr ⊢
    rw [tables_merge, Option.isSome_or, hr, Bool.or_true]

theorem grows_foldl_merge (rs : List Registry) (r : Registry) : r.Grows (rs.foldl merge r) := by
  refine List.foldlRecOn (motive := (r.Grows ·)) rs merge (Grows.refl r) ?_
  intro r' h other _
  exact h.trans (grows_merge r' other)

structure OwnedBy (r : Registry) (owner : String) : Prop where
  terms : ∀ a, a ∈ r.terms → a.rule = owner
  references : ∀ a, a ∈ r.references → a.rule = owner
  predicateObjects : ∀ a, a ∈ r.predicateObjects → a.rule = owner
  tables : ∀ rule, rule ∈ r.tables → rule = owner

structure Apart (r r' : Registry) : Prop where
  terms : ∀ a, a ∈ r.terms → a ∉ r'.terms
  references : ∀ a, a ∈ r.references → a ∉ r'.references
  predicateObjects : ∀ a, a ∈ r.predicateObjects → a ∉ r'.predicateObjects
  tables : ∀ rule, rule ∈ r.tables → rule ∉ r'.tables

instance (r r' : Registry) : Decidable (r.Apart r') :=
  decidable_of_iff ((∀ a ∈ r.terms.keys, a ∉ r'.terms)
      ∧ (∀ a ∈ r.references.keys, a ∉ r'.references)
      ∧ (∀ a ∈ r.predicateObjects.keys, a ∉ r'.predicateObjects)
      ∧ ∀ rule ∈ r.tables.keys, rule ∉ r'.tables) (by
    simp only [ExtTreeMap.mem_keys]
    exact ⟨fun ⟨ht, hr, hp, hn⟩ => ⟨ht, hr, hp, hn⟩, fun h => ⟨h.1, h.2, h.3, h.4⟩⟩)

theorem OwnedBy.apart {b c : Registry} {owner owner' : String} (hb : b.OwnedBy owner)
    (hc : c.OwnedBy owner') (hne : owner ≠ owner') : b.Apart c where
  terms a ha ha' := hne ((hb.terms a ha).symm.trans (hc.terms a ha'))
  references a ha ha' := hne ((hb.references a ha).symm.trans (hc.references a ha'))
  predicateObjects a ha ha' :=
    hne ((hb.predicateObjects a ha).symm.trans (hc.predicateObjects a ha'))
  tables rule hr hr' := hne ((hb.tables rule hr).symm.trans (hc.tables rule hr'))

theorem or_or_comm_of_disjoint {α β : Type} [Ord α] [TransOrd α] {m m' : ExtTreeMap α β}
    (h : ∀ a, a ∈ m → a ∉ m') (a : α) (x : Option β) :
    m'[a]?.or (m[a]?.or x) = m[a]?.or (m'[a]?.or x) := by
  by_cases ha : a ∈ m
  · rw [ExtTreeMap.getElem?_eq_none (h a ha), Option.none_or, Option.none_or]
  · rw [ExtTreeMap.getElem?_eq_none ha, Option.none_or, Option.none_or]

theorem Apart.merge_right_comm {b c : Registry} (h : b.Apart c) (a : Registry) :
    (a.merge b).merge c = (a.merge c).merge b := by
  apply eq_of_getElem?_eq
  · intro k
    simp only [terms_merge]
    by_cases hk : k ∈ b.terms
    · simp only [ExtTreeMap.getElem?_eq_none (h.terms k hk), Option.elim_none]
    · simp only [ExtTreeMap.getElem?_eq_none hk, Option.elim_none]
  · intro k
    simp only [references_merge]
    exact or_or_comm_of_disjoint h.references k _
  · intro k
    simp only [predicateObjects_merge]
    exact or_or_comm_of_disjoint h.predicateObjects k _
  · intro k
    simp only [tables_merge]
    exact or_or_comm_of_disjoint h.tables k _

end Registry

end TriplesSql
