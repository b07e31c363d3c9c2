import TriplesSql.Proofs.Query.Scope
import TriplesSql.Proofs.Template.Columns
import TriplesSql.Proofs.Template.Rendering

/-!
# Demands on a row

A value of a term map demands texts of the columns that its references name, and the condition for
the value is that a row meets the demands. Two references are met apart although they may name one
column, so a row that meets them all is there exactly if no column has to have two texts.
-/

namespace TriplesSql

open Template

namespace Condition

/-- The columns that a condition equates with texts, with these texts, from left to right. -/
def equations : Condition → List ((Option String × String) × String)
  | .binary .equals (.column table name) (.literal (.string s)) => [((table, name), s)]
  | .binary .and l r => l.equations ++ r.equations
  | .paren inner => inner.equations
  | _ => []

end Condition

namespace TermMap

/-- The texts that references have to have for a term map to give a value. -/
def demands? (m : TermMap) (value : String) : Option Bindings :=
  match m with
  | .constant term => if term = value then some [] else none
  | .column reference => some [(reference, value)]
  | .template text => bindings? text value

def meets (label : String) (demands : Bindings) : Condition :=
  .allOf (demands.map fun x => columnIs label x.1 x.2)

variable {m : TermMap} {label value : String} {demands : Bindings} {row : String → String}

theorem conditionFor?_eq (m : TermMap) (value label : String) :
    m.conditionFor? value label = (m.demands? value).map (meets label) := by
  cases m with
  | constant term =>
    simp only [conditionFor?, demands?]
    split
    · rfl
    · rfl
  | column reference => rfl
  | template text => rfl

theorem holds_columnIs_iff {reference : String} :
    (columnIs label reference value).Holds (.ofSource label row)
      ↔ row (Text.unquote reference) = value := by
  simp [columnIs, Condition.holds_eq_iff, Condition.columnOf, Condition.eval, Rows.ofSource]

theorem holds_meets_iff : (meets label demands).Holds (.ofSource label row)
    ↔ ∀ x ∈ demands, row (Text.unquote x.1) = x.2 := by
  unfold meets
  rw [Condition.holds_allOf_iff, List.forall_mem_map]
  exact forall₂_congr fun x _ => holds_columnIs_iff

theorem columns_meets (label : String) (demands : Bindings) :
    (meets label demands).columns = demands.map fun x => (some label, Text.unquote x.1) := by
  unfold meets
  rw [Condition.allOf_eq_flatMap Condition.columns rfl fun _ _ => rfl, List.flatMap_map,
    List.map_eq_flatMap]
  rfl

theorem readsOnly_of_conditionFor? {c : Condition} (h : m.conditionFor? value label = some c) :
    c.ReadsOnly [label] := by
  rw [conditionFor?_eq] at h
  obtain ⟨demands, -, rfl⟩ := Option.map_eq_some_iff.mp h
  intro x hx
  rw [columns_meets] at hx
  obtain ⟨demand, -, rfl⟩ := List.mem_map.mp hx
  exact ⟨label, List.mem_singleton_self label, rfl⟩

theorem equations_meets (label : String) (demands : Bindings) :
    (meets label demands).equations
      = demands.map fun x => ((some label, Text.unquote x.1), x.2) := by
  unfold meets
  rw [Condition.allOf_eq_flatMap Condition.equations rfl fun _ _ => rfl, List.flatMap_map,
    List.map_eq_flatMap]
  rfl

theorem map_fst_demands (h : m.demands? value = some demands) :
    demands.map Prod.fst = m.columns := by
  cases m with
  | constant term =>
    obtain ⟨-, he⟩ := Option.ite_none_right_eq_some.mp h
    obtain rfl := Option.some.inj he
    rfl
  | column reference =>
    obtain rfl := Option.some.inj h
    rfl
  | template text => exact Template.map_fst_of_bindings? h

/-- No column has to have two texts. -/
def AreCompatible (demands : Bindings) : Prop :=
  ∀ x ∈ demands, ∀ y ∈ demands, Text.unquote x.1 = Text.unquote y.1 → x.2 = y.2

theorem exists_holds_meets_iff :
    (∃ row, (meets label demands).Holds (.ofSource label row)) ↔ AreCompatible demands := by
  simp only [holds_meets_iff]
  constructor
  · rintro ⟨row, hrow⟩ x hx y hy hname
    rw [← hrow x hx, ← hrow y hy, hname]
  · intro h
    -- a column gets the text of the first demand on it
    let row (column : String) : String :=
      ((demands.find? (Text.unquote ·.1 = column)).map Prod.snd).getD ""
    refine ⟨row, fun x hx => ?_⟩
    obtain ⟨y, hy⟩ : ∃ y, demands.find? (Text.unquote ·.1 = Text.unquote x.1) = some y := by
      rw [← Option.isSome_iff_exists, List.find?_isSome]
      exact ⟨x, hx, decide_eq_true rfl⟩
    have hname : Text.unquote y.1 = Text.unquote x.1 := by simpa using List.find?_some hy
    show ((demands.find? (Text.unquote ·.1 = Text.unquote x.1)).map Prod.snd).getD "" = x.2
    rw [hy]
    exact h y (List.mem_of_find?_eq_some hy) x hx hname

end TermMap

end TriplesSql
