import TriplesSql.Query.Condition

namespace TriplesSql

abbrev Rows := Option String → String → Literal

/-- The rows in which one named source has a row of texts, and no other source has columns that
are texts. -/
def Rows.ofSource (label : String) (row : String → String) : Rows := fun table column =>
  if table = some label then .string (row column) else .boolean false

namespace Condition

def eval (rows : Rows) : Condition → Literal
  | .column table name => rows table name
  | .literal l => l
  | .binary .equals l r => .boolean (l.eval rows = r.eval rows)
  | .binary .and l r => .boolean (l.eval rows = .boolean true && r.eval rows = .boolean true)
  | .paren inner => inner.eval rows

def Holds (rows : Rows) (c : Condition) : Prop := c.eval rows = .boolean true

variable {rows : Rows}

theorem holds_truth_iff {b : Bool} : (truth b).Holds rows ↔ b = true := by
  simp [Holds, truth, eval]

theorem holds_eq_iff {l r : Condition} : (eq l r).Holds rows ↔ l.eval rows = r.eval rows := by
  simp [Holds, eq, eval]

theorem holds_both_iff {l r : Condition} :
    (both l r).Holds rows ↔ l.Holds rows ∧ r.Holds rows := by
  simp [Holds, both, eval]

theorem foldl_both_iff {P : Condition → Prop} (hboth : ∀ l r, P (both l r) ↔ P l ∧ P r)
    (cs : List Condition) (c : Condition) : P (cs.foldl both c) ↔ ∀ d ∈ c :: cs, P d := by
  induction cs generalizing c with
  | nil => simp
  | cons d cs ih => rw [List.foldl_cons, ih, List.forall_mem_cons, hboth, and_assoc,
      List.forall_mem_cons, List.forall_mem_cons]

theorem allOf_iff {P : Condition → Prop} (htrue : P (truth true))
    (hboth : ∀ l r, P (both l r) ↔ P l ∧ P r) (cs : List Condition) :
    P (allOf cs) ↔ ∀ c ∈ cs, P c := by
  cases cs with
  | nil => exact ⟨fun _ c hc => absurd hc List.not_mem_nil, fun _ => htrue⟩
  | cons c cs => exact foldl_both_iff hboth cs c

theorem foldl_both_eq {β : Type} {f : Condition → List β} (hboth : ∀ l r, f (both l r) = f l ++ f r)
    (cs : List Condition) (c : Condition) :
    f (cs.foldl both c) = f c ++ cs.flatMap f := by
  induction cs generalizing c with
  | nil => simp
  | cons d cs ih => rw [List.foldl_cons, ih, hboth, List.flatMap_cons, List.append_assoc]

theorem allOf_eq_flatMap {β : Type} (f : Condition → List β) (htrue : f (truth true) = [])
    (hboth : ∀ l r, f (both l r) = f l ++ f r) (cs : List Condition) :
    f (allOf cs) = cs.flatMap f := by
  cases cs with
  | nil => exact htrue
  | cons c cs => exact foldl_both_eq hboth cs c

theorem holds_allOf_iff {cs : List Condition} :
    (allOf cs).Holds rows ↔ ∀ c ∈ cs, c.Holds rows :=
  allOf_iff (holds_truth_iff.mpr rfl) (fun _ _ => holds_both_iff) cs

end Condition

end TriplesSql
