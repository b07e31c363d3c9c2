import TriplesSql.Proofs.Mapping.Demand
import TriplesSql.Proofs.Template.Separation

/-!
# Conditions that a row satisfies

Placeholders are told apart by their names as they are written, columns by the names that these
stand for. So conditions of a template can always be satisfied exactly if different names stand for
different columns: otherwise a value with one character for each placeholder has a condition that
wants two texts of one column.
-/

namespace TriplesSql.TermMap

open Template

variable {m : TermMap} {label value : String} {demands : Bindings}

theorem areCompatible_of_nodup (h : m.demands? value = some demands)
    (hm : (m.columns.map Text.unquote).Nodup) : AreCompatible demands := by
  rw [← map_fst_demands h, List.map_map] at hm
  have hinj := List.inj_on_of_nodup_map hm
  simp only [Function.comp_apply] at hinj
  intro x hx y hy hname
  rw [hinj hx hy hname]

theorem demands?_of_parse_error {template : String} (ht : template ∈ m.template?) {e : Malformed}
    (he : parse template = .error e) : m.demands? value = none := by
  cases m with
  | constant term => cases ht
  | column reference => cases ht
  | template text =>
    obtain rfl := Option.some.inj ht
    exact bindings?_of_parse_error he

def distinguish (name : String) (other : String) : String := if other = name then "7" else "8"

theorem distinguish_self (name : String) : distinguish name name = "7" := if_pos rfl

theorem distinguish_of_ne {name other : String} (h : other ≠ name) : distinguish name other = "8" :=
  if_neg h

theorem encode_distinguish (name other : String) :
    (Text.Percent.encode (distinguish name other)).toList.length = 1
      ∧ '\n' ∉ (Text.Percent.encode (distinguish name other)).toList := by
  by_cases h : other = name
  · rw [h, distinguish_self]
    decide
  · rw [distinguish_of_ne h]
    decide

theorem isFirstSplit_distinguish (name : String) (segments : List Segment) :
    IsFirstSplit segments (rowPieces (distinguish name) segments)
      (render (distinguish name) segments).toList := by
  rw [toList_render]
  exact isFirstSplit_fill fun other _ => encode_distinguish name other

theorem exists_not_areCompatible {template : String} {segments : List Segment}
    (hp : parse template = .ok segments)
    (hm : ¬((columns (.template template)).map Text.unquote).Nodup) :
    ∃ value demands, bindings? template value = some demands ∧ ¬AreCompatible demands := by
  have hcolumns : columns (.template template) = (placeholders segments).eraseDups :=
    columns_of_parse hp
  rw [hcolumns, List.nodup_map_iff_inj_on (nodup_eraseDups _)] at hm
  push Not at hm
  obtain ⟨a, ha, b, hb, hname, hne⟩ := hm
  refine ⟨render (distinguish a) segments, bindingsOf (distinguish a) (placeholders segments),
    bindings?_of_isFirstSplit hp (isFirstSplit_distinguish a segments), fun h => ?_⟩
  have hmem : ∀ name ∈ (placeholders segments).eraseDups,
      (name, distinguish a name) ∈ bindingsOf (distinguish a) (placeholders segments) :=
    fun name hn => List.mem_map.mpr ⟨name, hn, rfl⟩
  have hsame : distinguish a a = distinguish a b := h _ (hmem a ha) _ (hmem b hb) hname
  rw [distinguish_self, distinguish_of_ne (Ne.symm hne)] at hsame
  exact absurd hsame (by decide)

/-- The condition for a value can be satisfied exactly if it equates no column with two texts. This
is so for all values exactly if the references of the term map name different columns, or its
template cannot be read, so that no value has a condition. -/
theorem satisfiable_of_conditionFor?_iff (m : TermMap) :
    (∀ value label c, m.conditionFor? value label = some c →
      ((∃ row, c.Holds (.ofSource label row))
        ↔ ∀ x ∈ c.equations, ∀ y ∈ c.equations, x.1 = y.1 → x.2 = y.2))
    ∧ ((∀ value label c, m.conditionFor? value label = some c →
        ∃ row, c.Holds (.ofSource label row))
      ↔ (m.columns.map Text.unquote).Nodup
        ∨ ∃ template ∈ m.template?, ∃ e, parse template = .error e) := by
  constructor
  · intro value label c h
    rw [conditionFor?_eq] at h
    obtain ⟨demands, -, rfl⟩ := Option.map_eq_some_iff.mp h
    rw [exists_holds_meets_iff, equations_meets, List.forall_mem_map]
    refine forall₂_congr fun x _ => ?_
    rw [List.forall_mem_map]
    refine forall₂_congr fun y _ => imp_congr_left ?_
    rw [Prod.mk.injEq]
    exact (and_iff_right rfl).symm
  · constructor
    · intro h
      by_contra hno
      rw [not_or] at hno
      obtain ⟨hnodup, hparse⟩ := hno
      cases m with
      | constant term => exact hnodup List.nodup_nil
      | column reference => exact hnodup (List.nodup_singleton _)
      | template template =>
        cases hp : parse template with
        | error e => exact hparse ⟨template, rfl, e, hp⟩
        | ok segments =>
          obtain ⟨value, demands, hd, hbad⟩ := exists_not_areCompatible hp hnodup
          have hc : conditionFor? (.template template) value "" = some (meets "" demands) := by
            rw [conditionFor?_eq]
            exact congrArg (Option.map _) hd
          exact hbad (exists_holds_meets_iff.mp (h value "" _ hc))
    · intro h value label c hc
      rw [conditionFor?_eq] at hc
      obtain ⟨demands, hd, rfl⟩ := Option.map_eq_some_iff.mp hc
      rw [exists_holds_meets_iff]
      rcases h with hnodup | ⟨template, ht, e, he⟩
      · exact areCompatible_of_nodup hd hnodup
      · rw [demands?_of_parse_error ht he] at hd
        cases hd

theorem satisfiable_staff :
    ∃ c, (TermMap.template staffTemplate).conditionFor? "http://ex.org/R%26D/7" "T1" = some c
      ∧ ∃ row, c.Holds (.ofSource "T1" row) := by
  have hnodup : ((TermMap.template staffTemplate).columns.map Text.unquote).Nodup := by
    decide +kernel
  have hc : (TermMap.template staffTemplate).conditionFor? "http://ex.org/R%26D/7" "T1"
      = some (meets "T1" [("dept", "R&D"), ("id", "7")]) := by
    decide +kernel
  exact ⟨_, hc, (satisfiable_of_conditionFor?_iff _).2.mpr (Or.inl hnodup) _ _ _ hc⟩

/-- The name and the delimited name of one column are two placeholders, so that the column has to be
1 and 2. -/
theorem not_forall_satisfiable :
    ¬∀ (m : TermMap) (value label : String) (c : Condition),
      m.conditionFor? value label = some c → ∃ row, c.Holds (.ofSource label row) := by
  intro h
  have hc : (TermMap.template "\x7bid\x7d-\x7b\"id\"\x7d").conditionFor? "1-2" "T1"
      = some (meets "T1" [("id", "1"), ("\"id\"", "2")]) := by
    decide +kernel
  have hbad : ¬AreCompatible [("id", "1"), ("\"id\"", "2")] := by
    intro hsame
    have hname : Text.unquote "id" = Text.unquote "\"id\"" := by decide +kernel
    have htext := hsame _ List.mem_cons_self _ (List.mem_cons_of_mem _ List.mem_cons_self) hname
    exact absurd htext (by decide)
  exact hbad (exists_holds_meets_iff.mp (h _ _ _ _ hc))

end TriplesSql.TermMap
