import TriplesSql.Proofs.Lists
import TriplesSql.Proofs.Unfold.Steps

/-!
# References in order

The references that count are joined in the order of their predicate-object maps. The place of a
reference among them, and so the name of the source that it joins, is the number of references in
front of it. Two maps of the registry bind the addresses of references to names by these places.
-/

namespace TriplesSql

open Std

namespace TriplesMap

/-- The references that count among the first `n` predicate-object maps, with the numbers of their
predicate-object maps. -/
def joinsUpTo (t : TriplesMap) (n : Nat) : List (Nat × RefObjectMap) :=
  (t.predicateObjects.zipIdx.take n).filterMap fun (m, index) => m.reference?.map (index, ·)

def joins (t : TriplesMap) : List (Nat × RefObjectMap) :=
  t.predicateObjects.zipIdx.filterMap fun (m, index) => m.reference?.map (index, ·)

theorem joinsUpTo_length (t : TriplesMap) : t.joinsUpTo t.predicateObjects.length = t.joins := by
  unfold joinsUpTo joins
  rw [List.take_of_length_le (by simp)]

theorem joinsUpTo_succ {t : TriplesMap} {n : Nat} {m : PredicateObjectMap}
    (hm : t.predicateObjects[n]? = some m) :
    t.joinsUpTo (n + 1) = t.joinsUpTo n ++ (m.reference?.map (n, ·)).toList := by
  have hn : t.predicateObjects.zipIdx[n]? = some (m, n) := by simp [List.getElem?_zipIdx, hm]
  unfold joinsUpTo
  rw [List.take_add_one, hn, List.filterMap_append]
  cases hr : m.reference? <;> simp [hr]

theorem length_joinsUpTo (t : TriplesMap) (n : Nat) : (t.joinsUpTo n).length = t.joinsBefore n := by
  unfold joinsUpTo joinsBefore
  rw [List.length_filterMap_eq_countP]
  conv_rhs => rw [← List.zipIdx_map_fst 0 t.predicateObjects, ← List.map_take, List.countP_map]
  simp only [Option.isSome_map]
  rfl

theorem lt_of_mem_joinsUpTo {t : TriplesMap} {n : Nat} {e : Nat × RefObjectMap}
    (he : e ∈ t.joinsUpTo n) : e.1 < n := by
  obtain ⟨⟨m, index⟩, hm, hr⟩ := List.mem_filterMap.mp he
  obtain ⟨r, -, rfl⟩ := Option.map_eq_some_iff.mp hr
  obtain ⟨j, hj, hget⟩ := List.mem_take_iff_getElem.mp hm
  rw [List.getElem_zipIdx] at hget
  have hindex : 0 + j = index := (Prod.mk.inj hget).2
  change index < n
  omega

theorem joinsUpTo_prefix (t : TriplesMap) {m n : Nat} (h : m ≤ n) :
    t.joinsUpTo m <+: t.joinsUpTo n :=
  (List.take_prefix_take_left h).filterMap _

theorem getElem?_joinsUpTo {t : TriplesMap} {n index : Nat} {m : PredicateObjectMap}
    {r : RefObjectMap} (hn : index < n) (hm : t.predicateObjects[index]? = some m)
    (hr : m.reference? = some r) : (t.joinsUpTo n)[t.joinsBefore index]? = some (index, r) := by
  have hsucc : (t.joinsUpTo (index + 1))[(t.joinsUpTo index).length]? = some (index, r) := by
    rw [joinsUpTo_succ hm, hr]
    exact List.getElem?_concat_length
  rw [← t.length_joinsUpTo index]
  exact getElem?_prefix_mono (t.joinsUpTo_prefix (Nat.succ_le_of_lt hn)) hsucc

end TriplesMap

/-- A map binds the keys of some numbers to the labels of the places of these numbers, and it binds
nothing else. -/
def Binds {α : Type} [Ord α] [TransOrd α] (names : ExtTreeMap α String) (key : Nat → α)
    (label : Nat → String) (indices : List Nat) : Prop :=
  ∀ a l, names[a]? = some l ↔ ∃ j i, indices[j]? = some i ∧ a = key i ∧ l = label j

theorem Binds.empty {α : Type} [Ord α] [TransOrd α] (key : Nat → α) (label : Nat → String) :
    Binds (∅ : ExtTreeMap α String) key label [] := by
  intro a l
  simp

theorem Binds.insert {α : Type} [Ord α] [TransOrd α] [LawfulEqOrd α] {names : ExtTreeMap α String}
    {key : Nat → α} {label : Nat → String} {indices : List Nat} {n : Nat}
    (h : Binds names key label indices) (hkey : Function.Injective key) (hn : n ∉ indices) :
    Binds (names.insert (key n) (label indices.length)) key label (indices ++ [n]) := by
  intro a l
  rw [ExtTreeMap.getElem?_insert]
  simp only [getElem?_concat_eq_some_iff]
  by_cases ha : key n = a
  · subst ha
    rw [if_pos (Std.compare_eq_iff_eq.mpr rfl), Option.some.injEq]
    constructor
    · rintro rfl
      exact ⟨indices.length, n, Or.inr ⟨rfl, rfl⟩, rfl, rfl⟩
    · rintro ⟨j, i, hj | ⟨rfl, -⟩, hi, rfl⟩
      · rw [hkey hi] at hn
        exact absurd (List.mem_of_getElem? hj) hn
      · rfl
  · rw [if_neg fun hc => ha (Std.compare_eq_iff_eq.mp hc), h a l]
    constructor
    · rintro ⟨j, i, hj, hi⟩
      exact ⟨j, i, Or.inl hj, hi⟩
    · rintro ⟨j, i, hj | ⟨-, rfl⟩, hi, hl⟩
      · exact ⟨j, i, hj, hi, hl⟩
      · exact absurd hi.symm ha

theorem Binds.eq {α : Type} [Ord α] [TransOrd α] [LawfulEqOrd α]
    {names names' : ExtTreeMap α String} {key : Nat → α} {label : Nat → String}
    {indices : List Nat} (h : Binds names key label indices)
    (h' : Binds names' key label indices) : names = names' := by
  apply ExtTreeMap.ext_getElem?
  intro a
  apply Option.ext
  intro l
  rw [h a l, h' a l]

end TriplesSql
