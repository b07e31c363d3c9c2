import Std.Data.ExtTreeMap

namespace TriplesSql

open Std

inductive TermAddress where
  | subject (rule : String)
  | predicate (rule : String) (index : Nat)
  | object (rule : String) (index : Nat)
  | reference (rule : String) (index : Nat)
  deriving DecidableEq, Repr

namespace TermAddress

def rank : TermAddress → Nat
  | .subject _ => 0
  | .predicate _ _ => 1
  | .object _ _ => 2
  | .reference _ _ => 3

def rule : TermAddress → String
  | .subject rule | .predicate rule _ | .object rule _ | .reference rule _ => rule

/-- The number of the predicate-object map, zero for a subject. -/
def index : TermAddress → Nat
  | .subject _ => 0
  | .predicate _ index | .object _ index | .reference _ index => index

def display : TermAddress → String
  | .subject rule => rule ++ "/subject"
  | .predicate rule index => rule ++ "/pom[" ++ toString index ++ "]/predicate"
  | .object rule index => rule ++ "/pom[" ++ toString index ++ "]/object"
  | .reference rule index => rule ++ "/pom[" ++ toString index ++ "]/ref_object"

instance : Ord TermAddress :=
  ⟨compareLex (compareOn rank) (compareLex (compareOn rule) (compareOn index))⟩

instance : TransOrd TermAddress :=
  inferInstanceAs
    (TransCmp (compareLex (compareOn rank) (compareLex (compareOn rule) (compareOn index))))

instance : LawfulEqOrd TermAddress where
  eq_of_compare {a b} h := by
    change
      compareLex (compareOn rank) (compareLex (compareOn rule) (compareOn index)) a b = .eq at h
    simp only [compareLex_eq_eq, compareOn, Std.compare_eq_iff_eq] at h
    cases a <;> cases b <;> simp_all [rank, rule, index]

def sort (as : List TermAddress) : List TermAddress :=
  as.mergeSort fun a b => (compare a b).isLE

end TermAddress

structure PredicateObjectAddress where
  rule : String
  index : Nat
  deriving DecidableEq, Repr

namespace PredicateObjectAddress

def display (a : PredicateObjectAddress) : String :=
  a.rule ++ "/pom[" ++ toString a.index ++ "]"

instance : Ord PredicateObjectAddress := ⟨compareLex (compareOn rule) (compareOn index)⟩

instance : TransOrd PredicateObjectAddress :=
  inferInstanceAs (TransCmp (compareLex (compareOn rule) (compareOn index)))

instance : LawfulEqOrd PredicateObjectAddress where
  eq_of_compare {a b} h := by
    change compareLex (compareOn rule) (compareOn index) a b = .eq at h
    simp only [compareLex_eq_eq, compareOn, Std.compare_eq_iff_eq] at h
    cases a; cases b; simp_all

def sort (as : List PredicateObjectAddress) : List PredicateObjectAddress :=
  as.mergeSort fun a b => (compare a b).isLE

end PredicateObjectAddress

end TriplesSql
