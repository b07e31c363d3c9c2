import TriplesSql.Command.Run
import TriplesSql.Proofs.Query.Selection
import TriplesSql.Proofs.Unfold.Naming
import TriplesSql.Proofs.Unfold.Restriction

/-!
# The sources of an unfolded rule

The query of a rule reads from the table of the rule and from the tables of the parents, in the
order of the references that count. A parent is joined where all declared pairs of columns are
equal. The registry has the names of these sources and of no others.
-/

namespace TriplesSql

theorem sourceName_inj {aliasPrefix : String} {m n : Nat}
    (h : sourceName aliasPrefix m = sourceName aliasPrefix n) : m = n := by
  have ht : toString m = toString n := by
    simpa only [sourceName, String.append_right_inj] using h
  exact toString_nat_inj ht

namespace JoinCondition

theorem conjuncts_allOf (cs : List JoinCondition) (childAlias parentAlias : String) :
    (allOf cs childAlias parentAlias).conjuncts
      = cs.map fun c => c.condition childAlias parentAlias := by
  unfold allOf
  rw [Condition.conjuncts_allOf, List.flatMap_map]
  exact List.flatMap_pure_eq_map _ cs

theorem selects_allOf_iff {cs : List JoinCondition} {childAlias parentAlias : String}
    (hne : parentAlias ≠ childAlias) (child parent : String → Option Literal) :
    (allOf cs childAlias parentAlias).Selects (.pair childAlias parentAlias child parent)
      ↔ ∀ c ∈ cs, ∃ v, child (Text.unquote c.child) = some v
        ∧ parent (Text.unquote c.parent) = some v := by
  unfold allOf
  rw [Condition.selects_allOf_iff, List.forall_mem_map]
  refine forall₂_congr fun c _ => ?_
  rw [condition, Condition.selects_eq_iff]
  simp [Condition.columnOf, Condition.value?, PartialRows.pair, hne]

end JoinCondition

/-- The sources of the query of a rule, with the names of the settings, and what the registry says
of them. -/
structure Unfolded.HasSources [SqlReader] (u : Unfolded) (t : TriplesMap) (s : Settings) :
    Prop where
  length : u.query.sources.length = t.joins.length + 1
  base : ∃ source, (t.table.resolve s.dialect).value = some source
    ∧ u.query.sources[0]? = some ⟨source, some (sourceName s.aliasPrefix 1), false, none⟩
  /-- The source behind the base and `j` joins is the table of the parent of the next reference. Its
  condition is made of the declared pairs in their order, and it selects a row of the base beside a
  row of the parent exactly if both have one value in the columns of each pair. -/
  joins : ∀ j i r, t.joins[j]? = some (i, r) → ∃ l source on, r.parentTable = some l
    ∧ (l.resolve s.dialect).value = some source
    ∧ u.query.sources[j + 1]?
      = some ⟨source, some (sourceName s.aliasPrefix (j + 2)), true, some on⟩
    ∧ on.conjuncts = r.conditions.map (fun c =>
      .eq (.columnOf (sourceName s.aliasPrefix 1) (Text.unquote c.child))
        (.columnOf (sourceName s.aliasPrefix (j + 2)) (Text.unquote c.parent)))
    ∧ ∀ child parent : String → Option Literal,
      on.Selects (.pair (sourceName s.aliasPrefix 1) (sourceName s.aliasPrefix (j + 2)) child
          parent)
        ↔ ∀ c ∈ r.conditions, ∃ v, child (Text.unquote c.child) = some v
          ∧ parent (Text.unquote c.parent) = some v
  references : ∀ (a : TermAddress) label, u.registry.references[a]? = some label
    ↔ ∃ j i r, t.joins[j]? = some (i, r) ∧ a = .reference t.id i
      ∧ label = sourceName s.aliasPrefix (j + 2)
  predicateObjects : ∀ (a : PredicateObjectAddress) label,
    u.registry.predicateObjects[a]? = some label
    ↔ ∃ j i r, t.joins[j]? = some (i, r) ∧ a = ⟨t.id, i⟩
      ∧ label = sourceName s.aliasPrefix (j + 2)
  tables : ∀ rule label, u.registry.tables[rule]? = some label
    ↔ rule = t.id ∧ label = sourceName s.aliasPrefix 1

/-- The query of a rule reads from the table of the rule and, joined to it, from the tables of the
parents of the references that count, and the registry has the names of just these sources. -/
theorem hasSources_of_unfold [SqlReader] (s : Settings) (t : TriplesMap) (subject : Option String)
    (u : Unfolded) (h : (t.unfold s subject).value = .ok (some u)) : u.HasSources t s := by
  obtain ⟨p, hp, -, hsources, hreg⟩ := TriplesMap.unfold_eq_some h
  have hr := TriplesMap.reached_of_unfoldAll hp
  have hindex : ∀ j i : Nat,
      (t.joins.map Prod.fst)[j]? = some i ↔ ∃ r, t.joins[j]? = some (i, r) := by
    intro j i
    rw [List.getElem?_map, Option.map_eq_some_iff]
    simp
  constructor
  · rw [hsources, hr.length, ← t.length_joinsUpTo, t.joinsUpTo_length]
  · rw [hsources]
    exact hr.base
  · intro j i r hj
    rw [← t.joinsUpTo_length] at hj
    obtain ⟨l, source, hl, hsource, hitem⟩ := hr.joins j i r hj
    have hne : sourceName s.aliasPrefix (j + 2) ≠ sourceName s.aliasPrefix 1 := by
      intro heq
      have hn := sourceName_inj heq
      omega
    rw [hsources]
    exact ⟨l, source, _, hl, hsource, hitem, JoinCondition.conjuncts_allOf r.conditions _ _,
      JoinCondition.selects_allOf_iff hne⟩
  · intro a label
    rw [hreg, hr.references a label, t.joinsUpTo_length]
    simp only [hindex, Progress.joinLabel, ← exists_and_right]
  · intro a label
    rw [hreg, hr.predicateObjects a label, t.joinsUpTo_length]
    simp only [hindex, Progress.joinLabel, ← exists_and_right]
  · rw [hreg]
    exact hr.tables

def joiningRule : TriplesMap where
  id := "Flight"
  table := .tableName "flight"
  subject := .column "id"
  predicateObjects := [⟨[], [.column "day"], []⟩,
    ⟨[], [], [⟨"Route", [⟨"origin", "code"⟩, ⟨"\"carrier\"", "airline"⟩],
      some (.tableName "route"), some (.column "code")⟩]⟩,
    ⟨[], [], []⟩,
    ⟨[], [], [⟨"Fleet", [], some (.tableName "fleet"), none⟩]⟩]

theorem hasSources_joiningRule : ∃ u, (joiningRule.unfold {} none).value = .ok (some u)
    ∧ u.query.sources.map (·.label) = [some "T1", some "T2", some "T3"]
    ∧ joiningRule.joins.map Prod.fst = [1, 3] ∧ u.HasSources joiningRule {} := by
  have hout : (joiningRule.unfold {} none).value.toOption.join.map
      (fun u => u.query.sources.map (·.label)) = some [some "T1", some "T2", some "T3"] := by
    decide +kernel
  obtain ⟨u, hu, hlabels⟩ := TriplesMap.exists_of_map_eq_some hout
  exact ⟨u, hu, hlabels, rfl, hasSources_of_unfold {} joiningRule none u hu⟩

end TriplesSql
