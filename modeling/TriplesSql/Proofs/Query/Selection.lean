import TriplesSql.Proofs.Query.Evaluation

/-!
# Rows that a condition selects

A row may have no value in a column. A comparison with such a column is unknown, and so is a
conjunction with an unknown part unless the other part is untrue. A condition selects the rows in
which it is true. Where every column has a value, this is its meaning in full rows.
-/

namespace TriplesSql

abbrev PartialRows := Option String → String → Option Literal

/-- A row of one named source beside a row of another one. -/
def PartialRows.pair (childLabel parentLabel : String) (child parent : String → Option Literal) :
    PartialRows := fun table column =>
  if table = some childLabel then child column
  else if table = some parentLabel then parent column
  else none

namespace Condition

def conjoin : Option Literal → Option Literal → Option Literal
  | some l, some r => some (.boolean (l = .boolean true && r = .boolean true))
  | some known, none | none, some known =>
    if known = .boolean true then none else some (.boolean false)
  | none, none => none

def value? (rows : PartialRows) : Condition → Option Literal
  | .column table name => rows table name
  | .literal l => some l
  | .binary .equals l r =>
    (l.value? rows).bind fun x => (r.value? rows).map fun y => .boolean (x = y)
  | .binary .and l r => conjoin (l.value? rows) (r.value? rows)
  | .paren inner => inner.value? rows

def Selects (rows : PartialRows) (c : Condition) : Prop := c.value? rows = some (.boolean true)

variable {rows : PartialRows}

theorem selects_truth : (truth true).Selects rows := rfl

theorem selects_eq_iff {l r : Condition} :
    (eq l r).Selects rows ↔ ∃ v, l.value? rows = some v ∧ r.value? rows = some v := by
  simp only [Selects, eq, value?]
  cases l.value? rows with
  | none => simp
  | some x =>
    cases r.value? rows with
    | none => simp
    | some y => simp [eq_comm]

theorem conjoin_eq_true_iff {x y : Option Literal} :
    conjoin x y = some (.boolean true) ↔ x = some (.boolean true) ∧ y = some (.boolean true) := by
  cases x with
  | none =>
    cases y with
    | none => simp [conjoin]
    | some y => by_cases hy : y = .boolean true <;> simp [conjoin, hy]
  | some x =>
    cases y with
    | none => by_cases hx : x = .boolean true <;> simp [conjoin, hx]
    | some y => simp [conjoin]

theorem conjoin_assoc (x y z : Option Literal) :
    conjoin (conjoin x y) z = conjoin x (conjoin y z) := by
  have hcases (v : Option Literal) :
      v = none ∨ v = some (.boolean true) ∨ ∃ l, l ≠ .boolean true ∧ v = some l := by
    cases v with
    | none => exact .inl rfl
    | some l => by_cases hl : l = .boolean true <;> simp [hl]
  rcases hcases x with rfl | rfl | ⟨a, ha, rfl⟩ <;>
    rcases hcases y with rfl | rfl | ⟨b, hb, rfl⟩ <;>
    rcases hcases z with rfl | rfl | ⟨c, hc, rfl⟩ <;> simp_all [conjoin]

theorem selects_both_iff {l r : Condition} :
    (both l r).Selects rows ↔ l.Selects rows ∧ r.Selects rows := by
  simp only [Selects, both, value?, conjoin_eq_true_iff]

theorem selects_allOf_iff {cs : List Condition} :
    (allOf cs).Selects rows ↔ ∀ c ∈ cs, c.Selects rows :=
  allOf_iff selects_truth (fun _ _ => selects_both_iff) cs

/-- The conditions that a condition is a conjunction of, from left to right. The true condition is
the conjunction of none. -/
def conjuncts : Condition → List Condition
  | .binary .and l r => l.conjuncts ++ r.conjuncts
  | .literal (.boolean true) => []
  | c => [c]

theorem conjuncts_allOf (cs : List Condition) :
    (allOf cs).conjuncts = cs.flatMap conjuncts :=
  allOf_eq_flatMap conjuncts rfl (fun _ _ => rfl) cs

end Condition

end TriplesSql
