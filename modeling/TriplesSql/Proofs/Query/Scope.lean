import TriplesSql.Mapping.Document
import TriplesSql.Proofs.Query.Evaluation
import TriplesSql.Query.Basic

/-!
# Names in scope

A query is well scoped if its sources have different names, each name that it uses is that of a
source, and each condition stays with the sources that are there where it stands: a join condition
with the base and the source that is joined, the filter with the base.
-/

namespace TriplesSql

namespace Condition

def columns : Condition → List (Option String × String)
  | .column table name => [(table, name)]
  | .literal _ => []
  | .binary _ l r => l.columns ++ r.columns
  | .paren inner => inner.columns

def ReadsOnly (labels : List String) (c : Condition) : Prop :=
  ∀ x ∈ c.columns, ∃ label ∈ labels, x.1 = some label

variable {labels : List String}

theorem readsOnly_literal (l : Literal) : (literal l).ReadsOnly labels :=
  fun _ hx => absurd hx List.not_mem_nil

theorem readsOnly_columnOf {label : String} (h : label ∈ labels) (name : String) :
    (columnOf label name).ReadsOnly labels := by
  intro x hx
  obtain rfl : x = (some label, name) := List.mem_singleton.mp hx
  exact ⟨label, h, rfl⟩

theorem readsOnly_binary_iff {op : Operator} {l r : Condition} :
    (binary op l r).ReadsOnly labels ↔ l.ReadsOnly labels ∧ r.ReadsOnly labels := by
  show (∀ x ∈ l.columns ++ r.columns, ∃ label ∈ labels, x.1 = some label) ↔ _
  exact List.forall_mem_append

theorem readsOnly_allOf_iff {cs : List Condition} :
    (allOf cs).ReadsOnly labels ↔ ∀ c ∈ cs, c.ReadsOnly labels :=
  allOf_iff (readsOnly_literal (.boolean true)) (fun _ _ => readsOnly_binary_iff) cs

end Condition

theorem JoinCondition.readsOnly_allOf (cs : List JoinCondition) (childAlias parentAlias : String) :
    (allOf cs childAlias parentAlias).ReadsOnly [childAlias, parentAlias] := by
  unfold allOf
  rw [Condition.readsOnly_allOf_iff, List.forall_mem_map]
  intro c _
  have hchild : childAlias ∈ [childAlias, parentAlias] := List.mem_cons_self
  have hparent : parentAlias ∈ [childAlias, parentAlias] :=
    List.mem_cons_of_mem _ (List.mem_singleton_self _)
  exact Condition.readsOnly_binary_iff.mpr
    ⟨Condition.readsOnly_columnOf hchild _, Condition.readsOnly_columnOf hparent _⟩

namespace Query

/-- The names that a query uses are those of its sources: the base and the joined ones. -/
structure IsScoped (q : Query) (base : String) (joined : List String) : Prop where
  sources : q.sources.map (·.label) = (base :: joined).map some
  distinct : (base :: joined).Nodup
  outputs : ∀ c ∈ q.outputs, c.table ∈ base :: joined
  on : ∀ item ∈ q.sources, ∀ c ∈ item.on, ∃ label ∈ item.label, c.ReadsOnly [base, label]
  filter : ∀ c ∈ q.filter, c.ReadsOnly [base]

theorem IsScoped.restrict {q : Query} {base : String} {joined : List String}
    (h : q.IsScoped base joined) {c : Condition} (hc : c.ReadsOnly [base]) :
    (q.restrict c).IsScoped base joined := by
  refine ⟨h.sources, h.distinct, h.outputs, h.on, ?_⟩
  intro found hfound
  obtain rfl := Option.some.inj hfound
  cases hq : q.filter with
  | none => exact hc
  | some before => exact Condition.readsOnly_binary_iff.mpr ⟨h.filter before hq, hc⟩

end Query

end TriplesSql
