import TriplesSql.Proofs.Mapping.Demand
import TriplesSql.Proofs.Template.Separation

/-!
# Conditions for values

The condition for a value of a template holds in a row that gives this value exactly if the row's
own pieces are the first way to take the value apart. So no row is lost exactly if the texts between
neighbouring placeholders are safe.
-/

namespace TriplesSql.TermMap

open Template

variable {label : String} {row : String → String}

/-- The values that a row has for references as they are written. -/
def referenced (row : String → String) (reference : String) : String :=
  row (Text.unquote reference)

theorem exists_holds_iff {template value : String} :
    (∃ c, (TermMap.template template).conditionFor? value label = some c
      ∧ c.Holds (.ofSource label row))
    ↔ ∃ bindings, bindings? template value = some bindings
      ∧ ∀ x ∈ bindings, referenced row x.1 = x.2 := by
  rw [conditionFor?_eq]
  constructor
  · rintro ⟨c, hc, hholds⟩
    obtain ⟨bindings, hb, rfl⟩ := Option.map_eq_some_iff.mp hc
    exact ⟨bindings, hb, holds_meets_iff.mp hholds⟩
  · rintro ⟨bindings, hb, hrow⟩
    exact ⟨_, congrArg (Option.map _) hb, holds_meets_iff.mpr hrow⟩

theorem exists_holds_render_iff {template : String} {segments : List Segment}
    (hp : parse template = .ok segments) :
    (∃ c, (TermMap.template template).conditionFor? (render (referenced row) segments) label
        = some c ∧ c.Holds (.ofSource label row))
    ↔ IsFirstSplit segments (rowPieces (referenced row) segments)
        (render (referenced row) segments).toList := by
  rw [exists_holds_iff]
  constructor
  · rintro ⟨bindings, hb, hrow⟩
    exact isFirstSplit_of_bindings? hp hb hrow
  · intro h
    refine ⟨_, bindings?_of_isFirstSplit hp h, fun x hx => ?_⟩
    obtain ⟨name, -, rfl⟩ := List.mem_map.mp hx
    rfl

/-- The condition for the value that a row gives holds in this row exactly if no other way to take
the value apart comes before the row's own; and so it is for all rows exactly if each text between
neighbouring placeholders is safe. -/
theorem condition_of_render_iff {template : String} {segments : List Segment}
    (hp : parse template = .ok segments) (label : String) :
    (∀ row : String → String, (∀ name ∈ placeholders segments, referenced row name ≠ "") →
      ((∃ c, (TermMap.template template).conditionFor? (render (referenced row) segments) label
          = some c ∧ c.Holds (.ofSource label row))
        ↔ ∀ pieces, Splits segments pieces (render (referenced row) segments).toList →
          ¬Earlier pieces (rowPieces (referenced row) segments)))
    ∧ ((∀ row : String → String, (∀ name ∈ placeholders segments, referenced row name ≠ "") →
        ∃ c, (TermMap.template template).conditionFor? (render (referenced row) segments) label
          = some c ∧ c.Holds (.ofSource label row))
      ↔ ∀ sep ∈ separators segments, IsSafe sep) := by
  refine ⟨fun row hne => ?_, fun h => ?_, fun hs row hne => ?_⟩
  · rw [exists_holds_render_iff hp]
    exact ⟨IsFirstSplit.least, fun hl => ⟨splits_render hne, hl⟩⟩
  · refine isSafe_of_isFirstSplit fun v hv => ?_
    have hfirst := (exists_holds_render_iff hp).mp (h (fun _ => v) fun _ _ => hv)
    have hconst : referenced (fun _ => v) = fun _ => v := rfl
    rwa [hconst] at hfirst
  · exact (exists_holds_render_iff hp).mpr (isFirstSplit_rowPieces hs hne)

theorem condition_of_render_staff :
    ∃ c, (TermMap.template staffTemplate).conditionFor?
        (render (referenced staffRow) staffSegments) "T1" = some c
      ∧ c.Holds (.ofSource "T1" staffRow) := by
  refine (condition_of_render_iff parse_staffTemplate "T1").2.mpr (fun sep hsep => ?_) staffRow
    fun name _ => staffRow_ne_empty (Text.unquote name)
  have hslash : sep = ['/'] := List.mem_singleton.mp hsep
  subst hslash
  exact isSafe_of_mem List.mem_cons_self (by decide) (by decide)

/-- A row with a repeated value is lost: the value 7777 is taken apart into 7 and 777. -/
theorem not_forall_condition_of_render :
    ¬∀ (template : String) (segments : List Segment) (label : String) (row : String → String),
      parse template = .ok segments →
      (∀ name ∈ placeholders segments, referenced row name ≠ "") →
      ∃ c, (TermMap.template template).conditionFor? (render (referenced row) segments) label
        = some c ∧ c.Holds (.ofSource label row) := by
  intro h
  have hparse : parse "\x7bid\x7d\x7bid\x7d" = .ok [.column "id", .column "id"] := by
    decide +kernel
  have hne : "77" ≠ "" := by decide
  obtain ⟨c, hc, -⟩ := h _ _ "T1" (fun _ => "77") hparse fun _ _ => hne
  have hnone : (TermMap.template "\x7bid\x7d\x7bid\x7d").conditionFor?
      (render (referenced fun _ => "77") [.column "id", .column "id"]) "T1" = none := by
    decide +kernel
  rw [hnone] at hc
  cases hc

end TriplesSql.TermMap
