import TriplesSql.Unfold.Progress

/-!
# Names that are free

A new output column tries the plain name of its column first, and then that name with each number
from two on. The name it gets is the first candidate that is not in use for another column. There
always is one, as each candidate in use is the label of a different output column.
-/

namespace TriplesSql

def candidate (name : String) : Nat → String
  | 0 => name
  | n + 1 => numbered name (n + 2)

theorem toString_nat_inj {m n : Nat} (h : toString m = toString n) : m = n := by
  rw [Nat.toString_eq_ofList_toDigits, Nat.toString_eq_ofList_toDigits] at h
  have hd : Nat.toDigits 10 m = Nat.toDigits 10 n := String.ofList_injective h
  rw [← Nat.ofDigitChars_ten_toDigits (n := m), hd, Nat.ofDigitChars_ten_toDigits]

theorem isDigit_of_mem_toString {n : Nat} {c : Char} (h : c ∈ (toString n).toList) :
    c.isDigit = true := by
  rw [Nat.toString_eq_ofList_toDigits, String.toList_ofList] at h
  exact Nat.isDigit_of_mem_toDigits (by decide) (by decide) h

theorem numbered_inj {name : String} {m n : Nat} (h : numbered name m = numbered name n) :
    m = n := by
  have ht : toString m = toString n := by
    simpa only [numbered, String.append_right_inj] using h
  exact toString_nat_inj ht

theorem numbered_ne_self (name : String) (n : Nat) : numbered name n ≠ name := by
  intro h
  have hl := congrArg String.length h
  have h1 : "_".length = 1 := rfl
  simp only [numbered, String.length_append] at hl
  omega

theorem candidate_inj {name : String} {j k : Nat} (h : candidate name j = candidate name k) :
    j = k := by
  cases j with
  | zero =>
    cases k with
    | zero => rfl
    | succ k => exact absurd h.symm (numbered_ne_self name (k + 2))
  | succ j =>
    cases k with
    | zero => exact absurd h (numbered_ne_self name (j + 2))
    | succ k =>
      have hn : j + 2 = k + 2 := numbered_inj h
      omega

namespace Query

theorem isTaken_eq_true_iff {q : Query} {c : OutputColumn} {name : String} :
    q.isTaken c name = true ↔ ∃ d, q.outputNamed? name = some d ∧ d.sameColumn c = false := by
  unfold isTaken
  cases q.outputNamed? name with
  | none => simp
  | some d => simp

theorem isTaken_eq_false_iff {q : Query} {c : OutputColumn} {name : String} :
    q.isTaken c name = false ↔ ∀ d, q.outputNamed? name = some d → d.sameColumn c = true := by
  unfold isTaken
  cases q.outputNamed? name with
  | none => simp
  | some d => simp

theorem mem_of_outputNamed? {q : Query} {name : String} {d : OutputColumn}
    (h : q.outputNamed? name = some d) : d ∈ q.outputs ∧ d.label = some name := by
  refine ⟨List.mem_of_find?_eq_some h, ?_⟩
  simpa using List.find?_some h

/-- The candidate with a position is the first one that is free for a column. -/
structure IsFirstFree (q : Query) (c : OutputColumn) (k : Nat) : Prop where
  free : q.isTaken c (candidate (outputName c.table c.column) k) = false
  before : ∀ j < k, q.isTaken c (candidate (outputName c.table c.column) j) = true

theorem IsFirstFree.unique {q : Query} {c : OutputColumn} {j k : Nat} (hj : q.IsFirstFree c j)
    (hk : q.IsFirstFree c k) : j = k := by
  rcases Nat.lt_trichotomy j k with h | h | h
  · have ht := hk.before j h
    rw [hj.free] at ht
    cases ht
  · exact h
  · have ht := hj.before k h
    rw [hk.free] at ht
    cases ht

theorem length_of_taken (q : Query) (c : OutputColumn) (name : String) (m : Nat)
    (h : ∀ j < m, q.isTaken c (candidate name j) = true) : m ≤ q.outputs.length := by
  have hnodup : ((List.range m).map fun j => some (candidate name j)).Nodup := by
    refine List.Pairwise.map _ (fun i j hij hc => ?_) (List.nodup_range (n := m))
    exact hij (candidate_inj (Option.some.inj hc))
  have hsub : ((List.range m).map fun j => some (candidate name j))
      ⊆ q.outputs.map (·.label) := by
    intro label hl
    obtain ⟨j, hj, rfl⟩ := List.mem_map.mp hl
    obtain ⟨d, hd, -⟩ := isTaken_eq_true_iff.mp (h j (List.mem_range.mp hj))
    have hm := mem_of_outputNamed? hd
    exact List.mem_map.mpr ⟨d, hm.1, hm.2⟩
  have hle := hnodup.length_le_of_subset hsub
  simpa using hle

end Query

/-- The search stops at a number whose predecessors are all in use; it stops before its fuel is used
up only at a number that makes the name free. -/
theorem firstFree_spec (taken : String → Bool) (name : String) (fuel n : Nat) :
    ∃ k ≤ fuel, firstFree taken name fuel n = numbered name (n + k)
      ∧ (∀ j < k, taken (numbered name (n + j)) = true)
      ∧ (k < fuel → taken (numbered name (n + k)) = false) := by
  induction fuel generalizing n with
  | zero => exact ⟨0, Nat.le_refl 0, rfl, by omega, by omega⟩
  | succ fuel ih =>
    by_cases ht : taken (numbered name n) = true
    · obtain ⟨k, hk, he, hb, hf⟩ := ih (n + 1)
      have shift : ∀ j, n + 1 + j = n + (j + 1) := by omega
      simp only [shift] at he hb hf
      refine ⟨k + 1, by omega, ?_, ?_, fun h => hf (by omega)⟩
      · rw [firstFree, if_pos ht, he]
      · intro j hj
        cases j with
        | zero => exact ht
        | succ j => exact hb j (by omega)
    · refine ⟨0, by omega, ?_, by omega, fun _ => by simpa using ht⟩
      rw [firstFree, if_neg ht]
      rfl

namespace Query

/-- Under renaming a column gets its first free candidate, which is found among as many candidates
as there are output columns and one more. -/
theorem nameFor_rename (q : Query) (c : OutputColumn) :
    ∃ k ≤ q.outputs.length, q.IsFirstFree c k
      ∧ (q.nameFor .rename c).value = candidate (outputName c.table c.column) k := by
  by_cases ht : q.isTaken c (outputName c.table c.column) = true
  · obtain ⟨k, hk, he, hb, hf⟩ :=
      firstFree_spec (q.isTaken c) (outputName c.table c.column) q.outputs.length 2
    have hbefore : ∀ j < k + 1,
        q.isTaken c (candidate (outputName c.table c.column) j) = true := by
      intro j hj
      cases j with
      | zero => exact ht
      | succ j =>
        have h := hb j (by omega)
        rwa [Nat.add_comm] at h
    have hlen := q.length_of_taken c _ (k + 1) hbefore
    refine ⟨k + 1, hlen, ⟨?_, hbefore⟩, ?_⟩
    · have h := hf (by omega)
      rwa [Nat.add_comm] at h
    · simp only [nameFor, if_pos ht, he, candidate, Nat.add_comm]
  · refine ⟨0, by omega, ⟨?_, by omega⟩, ?_⟩
    · simpa [candidate] using ht
    · simp only [nameFor, if_neg ht, candidate]

theorem IsFirstFree.nameFor_eq {q : Query} {c : OutputColumn} {k : Nat} (h : q.IsFirstFree c k) :
    (q.nameFor .rename c).value = candidate (outputName c.table c.column) k := by
  obtain ⟨j, -, hj, he⟩ := q.nameFor_rename c
  rw [he, hj.unique h]

end Query

end TriplesSql
