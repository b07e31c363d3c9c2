import Mathlib.Data.List.Induction
import TriplesSql.Proofs.Unfold.Merging

/-!
# The algebra of merging

Merging is associative, and a merge with what is known already changes nothing. Registries that come
about by recording and merging list the names of a term map once each and no term map without names;
for these the empty registry is neutral on both sides, and registries that have no address in common
can be merged either way round.
-/

namespace TriplesSql

open Std

section names

variable {names labels : List String}

theorem appendNew_concat (names labels : List String) (label : String) :
    appendNew names (labels ++ [label]) = if label ∈ appendNew names labels
      then appendNew names labels else appendNew names labels ++ [label] := by
  unfold appendNew
  rw [List.foldl_append]
  rfl

theorem mem_appendNew_iff {name : String} :
    name ∈ appendNew names labels ↔ name ∈ names ∨ name ∈ labels := by
  induction labels using List.reverseRecOn with
  | nil => exact (or_iff_left List.not_mem_nil).symm
  | append_singleton labels label ih =>
    rw [appendNew_concat, List.mem_append, List.mem_singleton, ← or_assoc, ← ih]
    split
    · next hl => exact ⟨Or.inl, fun h => h.elim id fun he => he ▸ hl⟩
    · rw [List.mem_append, List.mem_singleton]

theorem appendNew_of_subset (h : labels ⊆ names) : appendNew names labels = names := by
  induction labels with
  | nil => rfl
  | cons label labels ih =>
    have hstep : appendNew names (label :: labels) = appendNew names labels := by
      unfold appendNew
      rw [List.foldl_cons, if_pos (h List.mem_cons_self)]
    rw [hstep]
    exact ih fun name hn => h (List.mem_cons_of_mem label hn)

theorem nodup_appendNew (h : names.Nodup) (labels : List String) :
    (appendNew names labels).Nodup := by
  induction labels using List.reverseRecOn with
  | nil => exact h
  | append_singleton labels label ih =>
    rw [appendNew_concat]
    split
    · exact ih
    · next hl =>
      rw [← List.concat_eq_append]
      exact ih.concat hl

theorem appendNew_nil (h : labels.Nodup) : appendNew [] labels = labels := by
  induction labels using List.reverseRecOn with
  | nil => rfl
  | append_singleton labels label ih =>
    rw [← List.concat_eq_append, List.nodup_concat] at h
    rw [appendNew_concat, ih h.2, if_neg h.1]

theorem appendNew_assoc (xs ys zs : List String) :
    appendNew (appendNew xs ys) zs = appendNew xs (appendNew ys zs) := by
  induction zs using List.reverseRecOn with
  | nil => rfl
  | append_singleton zs z ih =>
    rw [appendNew_concat, appendNew_concat ys, ih]
    by_cases hz : z ∈ appendNew ys zs
    · rw [if_pos hz, if_pos (mem_appendNew_iff.mpr (Or.inr hz))]
    · rw [if_neg hz, appendNew_concat]

end names

theorem withNames_of_ne_nil {labels : List String} (h : labels ≠ [])
    (found : Option (List String)) :
    withNames found labels = some (appendNew (found.getD []) labels) := by
  obtain ⟨label, rest, rfl⟩ := List.exists_cons_of_ne_nil h
  rfl

def takeNames (found other : Option (List String)) : Option (List String) :=
  other.elim found (withNames found)

theorem getD_takeNames (found other : Option (List String)) :
    (takeNames found other).getD [] = appendNew (found.getD []) (other.getD []) := by
  cases other with
  | none => rfl
  | some labels =>
    by_cases hl : labels = []
    · subst hl
      rfl
    · rw [takeNames, Option.elim_some, withNames_of_ne_nil hl, Option.getD_some, Option.getD_some]

theorem takeNames_assoc (x y z : Option (List String)) :
    takeNames (takeNames x y) z = takeNames x (takeNames y z) := by
  cases z with
  | none => rfl
  | some labels =>
    by_cases hl : labels = []
    · subst hl
      rfl
    · have hne : appendNew (y.getD []) labels ≠ [] := by
        obtain ⟨label, hlabel⟩ := List.exists_mem_of_ne_nil labels hl
        exact List.ne_nil_of_mem (mem_appendNew_iff.mpr (Or.inr hlabel))
      have hleft : takeNames (takeNames x y) (some labels)
          = some (appendNew ((takeNames x y).getD []) labels) := withNames_of_ne_nil hl _
      have hright : takeNames y (some labels) = some (appendNew (y.getD []) labels) :=
        withNames_of_ne_nil hl _
      rw [hleft, hright, getD_takeNames, appendNew_assoc]
      exact (withNames_of_ne_nil hne x).symm

theorem or_eq_right_of {α : Type} {x y : Option α} (h : ∀ v, x = some v → y = some v) :
    x.or y = y := by
  cases x with
  | none => exact Option.none_or
  | some v => exact (h v rfl).symm

namespace Registry

variable {a b c : Registry}

theorem merge_assoc (a b c : Registry) : (a.merge b).merge c = a.merge (b.merge c) := by
  apply eq_of_getElem?_eq
  · intro k
    simp only [terms_merge]
    exact takeNames_assoc a.terms[k]? b.terms[k]? c.terms[k]?
  · intro k
    simp only [references_merge, Option.or_assoc]
  · intro k
    simp only [predicateObjects_merge, Option.or_assoc]
  · intro k
    simp only [tables_merge, Option.or_assoc]

/-- Whatever one registry has on record the other one has as well: the names of term maps in some
order, all else with the same names. -/
structure Knows (r other : Registry) : Prop where
  terms : ∀ k : TermAddress, (other.terms[k]?).getD [] ⊆ (r.terms[k]?).getD []
  references : ∀ (k : TermAddress) label, other.references[k]? = some label →
    r.references[k]? = some label
  predicateObjects : ∀ (k : PredicateObjectAddress) label,
    other.predicateObjects[k]? = some label → r.predicateObjects[k]? = some label
  tables : ∀ (rule : String) label, other.tables[rule]? = some label →
    r.tables[rule]? = some label

theorem Knows.refl (r : Registry) : r.Knows r :=
  ⟨fun _ => List.Subset.refl _, fun _ _ => id, fun _ _ => id, fun _ _ => id⟩

theorem Knows.trans (h : a.Knows b) (h' : b.Knows c) : a.Knows c where
  terms k := List.Subset.trans (h'.terms k) (h.terms k)
  references k label hl := h.references k label (h'.references k label hl)
  predicateObjects k label hl := h.predicateObjects k label (h'.predicateObjects k label hl)
  tables rule label hl := h.tables rule label (h'.tables rule label hl)

theorem knows_empty (r : Registry) : r.Knows ∅ where
  terms _ := List.nil_subset _
  references _ _ hl := nomatch hl
  predicateObjects _ _ hl := nomatch hl
  tables _ _ hl := nomatch hl

theorem knows_merge (a b : Registry) : (a.merge b).Knows b where
  terms k := by
    rw [terms_merge]
    change _ ⊆ (takeNames a.terms[k]? b.terms[k]?).getD []
    rw [getD_takeNames]
    exact fun _ hl => mem_appendNew_iff.mpr (Or.inr hl)
  references k label hl := by
    rw [references_merge, hl, Option.some_or]
  predicateObjects k label hl := by
    rw [predicateObjects_merge, hl, Option.some_or]
  tables rule label hl := by
    rw [tables_merge, hl, Option.some_or]

theorem Knows.merge_eq (h : a.Knows b) : a.merge b = a := by
  apply eq_of_getElem?_eq
  · intro k
    rw [terms_merge]
    have hnames := h.terms k
    cases hb : b.terms[k]? with
    | none => rfl
    | some labels =>
      rw [hb, Option.getD_some] at hnames
      rw [Option.elim_some]
      cases ha : a.terms[k]? with
      | none =>
        rw [ha, Option.getD_none] at hnames
        rw [List.subset_nil.mp hnames]
        rfl
      | some names =>
        rw [ha, Option.getD_some] at hnames
        rw [withNames_some, appendNew_of_subset hnames]
  · intro k
    rw [references_merge]
    exact or_eq_right_of (h.references k)
  · intro k
    rw [predicateObjects_merge]
    exact or_eq_right_of (h.predicateObjects k)
  · intro rule
    rw [tables_merge]
    exact or_eq_right_of (h.tables rule)

theorem merge_empty (r : Registry) : r.merge ∅ = r := (knows_empty r).merge_eq

theorem merge_self (r : Registry) : r.merge r = r := (Knows.refl r).merge_eq

theorem merge_merge_self (a b : Registry) : (a.merge b).merge b = a.merge b :=
  (knows_merge a b).merge_eq

theorem takeOver_eq_merge {es : Entries} (h : es.ListsOf b) (a : Registry) :
    a.takeOver es = a.merge b := by
  apply eq_of_getElem?_eq
  · intro k
    rw [h.terms_takeOver, terms_merge]
  · intro k
    rw [h.references_takeOver, references_merge]
  · intro k
    rw [h.predicateObjects_takeOver, predicateObjects_merge]
  · intro k
    rw [h.tables_takeOver, tables_merge]

/-- Registries that come about by recording and merging. -/
inductive Reachable : Registry → Prop where
  | empty : Reachable ∅
  | term {r : Registry} (h : Reachable r) (k : TermAddress) (label : String) :
    Reachable (r.recordTerm k label)
  | reference {r : Registry} (h : Reachable r) (k : TermAddress) (label : String) :
    Reachable (r.recordReference k label)
  | predicateObject {r : Registry} (h : Reachable r) (k : PredicateObjectAddress)
    (label : String) : Reachable (r.recordPredicateObject k label)
  | table {r : Registry} (h : Reachable r) (rule label : String) :
    Reachable (r.recordTable rule label)
  | merge {r r' : Registry} (h : Reachable r) (h' : Reachable r') : Reachable (r.merge r')

/-- A term map that is on record has names, and each of them once. -/
def Tidy (r : Registry) : Prop :=
  ∀ (k : TermAddress) names, r.terms[k]? = some names → names ≠ [] ∧ names.Nodup

theorem tidy_empty : Tidy ∅ := fun _ _ h => nomatch h

theorem tidy_withNames {found : Option (List String)}
    (h : ∀ names, found = some names → names ≠ [] ∧ names.Nodup) (labels : List String) :
    ∀ names, withNames found labels = some names → names ≠ [] ∧ names.Nodup := by
  intro names hnames
  by_cases hl : labels = []
  · subst hl
    exact h names hnames
  · rw [withNames_of_ne_nil hl] at hnames
    obtain rfl := Option.some.inj hnames
    have hnodup : (found.getD []).Nodup := by
      cases found with
      | none => exact List.nodup_nil
      | some before => exact (h before rfl).2
    obtain ⟨label, hlabel⟩ := List.exists_mem_of_ne_nil labels hl
    exact ⟨List.ne_nil_of_mem (mem_appendNew_iff.mpr (Or.inr hlabel)),
      nodup_appendNew hnodup labels⟩

theorem Tidy.recordTerm (h : a.Tidy) (k : TermAddress) (label : String) :
    (a.recordTerm k label).Tidy := by
  intro k' names hnames
  rw [getElem?_terms_recordTerm] at hnames
  split at hnames
  · exact tidy_withNames (h k') [label] names hnames
  · exact h k' names hnames

theorem Tidy.merge (h : a.Tidy) (b : Registry) : (a.merge b).Tidy := by
  intro k names hnames
  rw [terms_merge] at hnames
  cases hb : b.terms[k]? with
  | none =>
    rw [hb] at hnames
    exact h k names hnames
  | some labels =>
    rw [hb] at hnames
    exact tidy_withNames (h k) labels names hnames

theorem Reachable.tidy (h : a.Reachable) : a.Tidy := by
  induction h with
  | empty => exact tidy_empty
  | term _ k label ih => exact ih.recordTerm k label
  | reference _ k label ih => exact ih
  | predicateObject _ k label ih => exact ih
  | table _ rule label ih => exact ih
  | merge _ _ ih _ => exact ih.merge _

theorem Tidy.empty_merge (h : a.Tidy) : (∅ : Registry).merge a = a := by
  apply eq_of_getElem?_eq
  · intro k
    rw [terms_merge]
    cases hk : a.terms[k]? with
    | none => rfl
    | some names =>
      obtain ⟨hne, hnodup⟩ := h k names hk
      rw [Option.elim_some, withNames_of_ne_nil hne]
      exact congrArg some (appendNew_nil hnodup)
  · intro k
    rw [references_merge]
    exact Option.or_none
  · intro k
    rw [predicateObjects_merge]
    exact Option.or_none
  · intro rule
    rw [tables_merge]
    exact Option.or_none

theorem Apart.merge_comm (h : a.Apart b) (ha : a.Tidy) (hb : b.Tidy) :
    a.merge b = b.merge a := by
  calc a.merge b
      = ((∅ : Registry).merge a).merge b := by rw [ha.empty_merge]
    _ = ((∅ : Registry).merge b).merge a := h.merge_right_comm ∅
    _ = b.merge a := by rw [hb.empty_merge]

/-- Registries that come about by recording and merging name term maps, each time with distinct
names. Merging them is associative and idempotent, has the empty registry as its neutral element,
does not depend on the order in which the entries of the other registry are visited, and can be done
either way round where the registries have no address in common. -/
theorem merge_laws {a b : Registry} (ha : a.Reachable) (hb : b.Reachable) :
    (∀ (k : TermAddress) names, a.terms[k]? = some names → names ≠ [] ∧ names.Nodup)
    ∧ (∀ c : Registry, c.Reachable → (a.merge b).merge c = a.merge (b.merge c))
    ∧ (∅ : Registry).merge a = a ∧ a.merge ∅ = a
    ∧ a.merge a = a ∧ (a.merge b).merge b = a.merge b
    ∧ (∀ es : Entries, es.ListsOf b → a.takeOver es = a.merge b)
    ∧ (a.Apart b → a.merge b = b.merge a) :=
  ⟨ha.tidy, fun c _ => merge_assoc a b c, ha.tidy.empty_merge, merge_empty a, merge_self a,
    merge_merge_self a b, fun _ h => takeOver_eq_merge h a,
    fun h => h.merge_comm ha.tidy hb.tidy⟩

def earlierNames : Registry :=
  (((∅ : Registry).recordTerm (.subject "Emp") "T1_id").recordTerm (.subject "Emp") "T1_dept")
    |>.recordTable "Emp" "T1"

def laterNames : Registry :=
  (((∅ : Registry).recordTerm (.subject "Emp") "E1_id").recordTerm (.subject "Emp") "T1_id")
    |>.recordTerm (.reference "Emp" 0) "E2_code" |>.recordReference (.reference "Emp" 0) "E2"
    |>.recordPredicateObject ⟨"Emp", 0⟩ "E2" |>.recordTable "Emp" "E1"

def parentNames : Registry :=
  ((∅ : Registry).recordTerm (.subject "Dept") "T1_code").recordTable "Dept" "T1"

theorem merge_laws_passes : earlierNames.Reachable ∧ laterNames.Reachable ∧ parentNames.Reachable
    ∧ (earlierNames.merge laterNames).terms[TermAddress.subject "Emp"]?
      = some ["T1_id", "T1_dept", "E1_id"]
    ∧ (earlierNames.merge laterNames).tables["Emp"]? = some "E1"
    ∧ (earlierNames.merge laterNames).merge parentNames
      = earlierNames.merge (laterNames.merge parentNames)
    ∧ earlierNames.takeOver ⟨laterNames.terms.toList.reverse, laterNames.references.toList,
      laterNames.predicateObjects.toList, laterNames.tables.toList⟩ = earlierNames.merge laterNames
    ∧ earlierNames.Apart parentNames
    ∧ earlierNames.merge parentNames = parentNames.merge earlierNames := by
  have hearlier : earlierNames.Reachable := ((Reachable.empty.term _ _).term _ _).table _ _
  have hlater : laterNames.Reachable := ((((Reachable.empty.term _ _).term _ _).term _ _).reference
    _ _).predicateObject _ _ |>.table _ _
  have hparent : parentNames.Reachable := (Reachable.empty.term _ _).table _ _
  have hapart : earlierNames.Apart parentNames := by decide +kernel
  obtain ⟨-, hassoc, -, -, -, -, horder, -⟩ := merge_laws hearlier hlater
  obtain ⟨-, -, -, -, -, -, -, hcomm⟩ := merge_laws hearlier hparent
  refine ⟨hearlier, hlater, hparent, by decide +kernel, by decide +kernel,
    hassoc parentNames hparent, horder _ ?_, hapart, hcomm hapart⟩
  exact ⟨List.reverse_perm _, List.Perm.rfl, List.Perm.rfl, List.Perm.rfl⟩

end Registry

end TriplesSql
