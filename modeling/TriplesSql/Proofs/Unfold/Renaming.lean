import TriplesSql.Proofs.Unfold.Naming

/-!
# The search for a number

A name that is in use for another column is tried with the numbers from two on, one after the other
and without a bound. The search ends all the same, as each number that is tried in vain is the label
of a different output column. So it is described twice: as the search without a bound, and by the
least number that makes the name free.
-/

namespace TriplesSql

/-- From a number on the search tries some candidates, one number after the other, and gives the
last one. -/
inductive Search (taken : String → Prop) (name : String) : Nat → Nat → String → Prop where
  | found {n : Nat} (hfree : ¬taken (numbered name n)) : Search taken name n 1 (numbered name n)
  | next {n tries : Nat} {result : String} (htaken : taken (numbered name n))
      (rest : Search taken name (n + 1) tries result) : Search taken name n (tries + 1) result

namespace Search

variable {taken : String → Prop} {name : String}

theorem of_taken {n k : Nat} (hbefore : ∀ j < k, taken (numbered name (n + j)))
    (hfree : ¬taken (numbered name (n + k))) :
    Search taken name n (k + 1) (numbered name (n + k)) := by
  induction k generalizing n with
  | zero => exact .found hfree
  | succ k ih =>
    have shift : ∀ j, n + (j + 1) = n + 1 + j := by omega
    rw [shift] at hfree ⊢
    refine .next (hbefore 0 (by omega)) (ih (fun j hj => ?_) hfree)
    rw [← shift]
    exact hbefore (j + 1) (by omega)

theorem unique {n tries tries' : Nat} {result result' : String}
    (h : Search taken name n tries result) (h' : Search taken name n tries' result') :
    tries = tries' ∧ result = result' := by
  induction h generalizing tries' with
  | found hfree =>
    cases h' with
    | found => exact ⟨rfl, rfl⟩
    | next htaken => exact absurd htaken hfree
  | next htaken rest ih =>
    cases h' with
    | found hfree => exact absurd htaken hfree
    | next htaken' rest' =>
      obtain ⟨rfl, rfl⟩ := ih rest'
      exact ⟨rfl, rfl⟩

end Search

namespace Query

/-- The first output column with a label reads another column than the given one. -/
def IsCarriedByOther (q : Query) (c : OutputColumn) (label : String) : Prop :=
  ∃ front other back, q.outputs = front ++ other :: back ∧ (∀ d ∈ front, d.label ≠ some label)
    ∧ other.label = some label ∧ ¬(other.table = c.table ∧ other.column = c.column)

theorem isTaken_iff_isCarriedByOther {q : Query} {c : OutputColumn} {label : String} :
    q.isTaken c label = true ↔ q.IsCarriedByOther c label := by
  rw [isTaken_eq_true_iff]
  constructor
  · rintro ⟨other, hother, hdiffers⟩
    obtain ⟨hlabel, front, back, hcut, hfront⟩ := List.find?_eq_some_iff_append.mp hother
    exact ⟨front, other, back, hcut, by simpa using hfront, by simpa using hlabel,
      by simpa [OutputColumn.sameColumn] using hdiffers⟩
  · rintro ⟨front, other, back, hcut, hfront, hlabel, hdiffers⟩
    refine ⟨other, List.find?_eq_some_iff_append.mpr ⟨by simpa using hlabel, front, back, hcut,
      by simpa using hfront⟩, by simpa [OutputColumn.sameColumn] using hdiffers⟩

/-- A column keeps its plain name unless the first output column with this name reads another
column. Otherwise it gets the least number from two on with which this is not so. The search without
a bound finds this number and ends there, and it tries no more numbers than there are output
columns, since the plain name is the label of one of them as well. -/
theorem nameFor_rename_outcome (q : Query) (c : OutputColumn) :
    (¬q.IsCarriedByOther c (outputName c.table c.column) →
      (q.nameFor .rename c).value = outputName c.table c.column)
    ∧ (q.IsCarriedByOther c (outputName c.table c.column) → ∃ n, 2 ≤ n
      ∧ (q.nameFor .rename c).value = numbered (outputName c.table c.column) n
      ∧ ¬q.IsCarriedByOther c (numbered (outputName c.table c.column) n)
      ∧ (∀ m, 2 ≤ m → m < n → q.IsCarriedByOther c (numbered (outputName c.table c.column) m))
      ∧ (∀ tries result,
        Search (q.IsCarriedByOther c) (outputName c.table c.column) 2 tries result
          ↔ tries = n - 1 ∧ result = (q.nameFor .rename c).value)
      ∧ n - 1 ≤ q.outputs.length) := by
  obtain ⟨k, hk, hfirst, hvalue⟩ := q.nameFor_rename c
  have hfree := mt isTaken_iff_isCarriedByOther.mpr (Bool.eq_false_iff.mp hfirst.free)
  have hbefore := fun j hj => isTaken_iff_isCarriedByOther.mp (hfirst.before j hj)
  rw [hvalue]
  cases k with
  | zero => exact ⟨fun _ => rfl, fun hcarried => absurd hcarried hfree⟩
  | succ k =>
    refine ⟨fun hplain => absurd (hbefore 0 (by omega)) hplain, fun _ => ?_⟩
    have hleast : ∀ m, 2 ≤ m → m < k + 2 →
        q.IsCarriedByOther c (numbered (outputName c.table c.column) m) := by
      intro m hm hlt
      obtain ⟨j, rfl⟩ := Nat.exists_eq_add_of_le' hm
      exact hbefore (j + 1) (by omega)
    have hsearch : Search (q.IsCarriedByOther c) (outputName c.table c.column) 2 (k + 1)
        (numbered (outputName c.table c.column) (k + 2)) := by
      have shift : ∀ j, j + 2 = 2 + j := by omega
      rw [candidate, shift] at hfree
      rw [shift]
      exact .of_taken (fun j hj => hleast (2 + j) (by omega) (by omega)) hfree
    refine ⟨k + 2, by omega, rfl, hfree, hleast,
      fun tries result => ⟨fun h => h.unique hsearch, ?_⟩, hk⟩
    rintro ⟨rfl, rfl⟩
    exact hsearch

def crowdedQuery : Query :=
  { empty .postgres with
    outputs := [⟨"T1", "a.b", some "T1_a_b"⟩, ⟨"T1", "a-b", some "T1_a_b_2"⟩, ⟨"T1", "c", none⟩] }

example : (crowdedQuery.nameFor .rename ⟨"T1", "a b", none⟩).value = "T1_a_b_3" := by
  decide +kernel

end Query

end TriplesSql
