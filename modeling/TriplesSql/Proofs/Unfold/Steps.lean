import TriplesSql.Proofs.Lists
import TriplesSql.Unfold.Rule

/-!
# Steps of the work on a rule

Each step is a few additions to the query and the registry, and each step that succeeds is one of
those named here. The columns of the term maps are read one after the other, those of references
from the sources that are joined for them.
-/

namespace TriplesSql

structure TermRead where
  address : TermAddress
  references : List String
  source : String

namespace PredicateObjectMap

def termReads (m : PredicateObjectMap) (rule : String) (index : Nat) (baseAlias : String) :
    List TermRead :=
  (m.predicate?.map fun x => ⟨.predicate rule index, x.columns, baseAlias⟩).toList
    ++ (m.object?.map fun x => ⟨.object rule index, x.columns, baseAlias⟩).toList

/-- The readings of a predicate-object map. The reference is read from the source of the parent. -/
def reads (m : PredicateObjectMap) (rule : String) (index : Nat) (baseAlias parentAlias : String) :
    List TermRead :=
  m.termReads rule index baseAlias
    ++ (m.reference?.map fun r => ⟨.reference rule index, r.columns, parentAlias⟩).toList

end PredicateObjectMap

namespace TriplesMap

def joinsBefore (t : TriplesMap) (index : Nat) : Nat :=
  (t.predicateObjects.take index).countP (·.reference?.isSome)

/-- The name of the source that the reference of a predicate-object map joins. The base is the first
source, and the joins follow it in their order. -/
def parentAlias (t : TriplesMap) (s : Settings) (index : Nat) : String :=
  sourceName s.aliasPrefix (t.joinsBefore index + 2)

/-- The readings of the subject and of the first `n` predicate-object maps of a rule. -/
def readsUpTo (t : TriplesMap) (s : Settings) (n : Nat) : List TermRead :=
  ⟨.subject t.id, t.subject.columns, baseAlias s⟩
    :: (t.predicateObjects.take n).zipIdx.flatMap fun (m, index) =>
      m.reads t.id index (baseAlias s) (t.parentAlias s index)

def reads (t : TriplesMap) (s : Settings) : List TermRead :=
  t.readsUpTo s t.predicateObjects.length

theorem joinsBefore_succ {t : TriplesMap} {n : Nat} {m : PredicateObjectMap}
    (hm : t.predicateObjects[n]? = some m) :
    t.joinsBefore (n + 1) = t.joinsBefore n + if m.reference?.isSome then 1 else 0 := by
  simp only [joinsBefore, List.take_add_one, hm, Option.toList_some, List.countP_append,
    List.countP_singleton]

theorem readsUpTo_succ {t : TriplesMap} {s : Settings} {n : Nat} {m : PredicateObjectMap}
    (hm : t.predicateObjects[n]? = some m) :
    t.readsUpTo s (n + 1)
      = t.readsUpTo s n ++ m.reads t.id n (baseAlias s) (t.parentAlias s n) := by
  obtain ⟨hn, -⟩ := List.getElem?_eq_some_iff.mp hm
  have hlen : (t.predicateObjects.take n).length = n := by
    rw [List.length_take]
    omega
  simp only [readsUpTo, List.take_add_one, hm, Option.toList_some, List.zipIdx_append, hlen,
    List.flatMap_append, List.cons_append]
  simp

end TriplesMap

namespace Query

theorem nameFor_congr {q q' : Query} (h : q.outputs = q'.outputs) : q.nameFor = q'.nameFor := by
  have ht : q.isTaken = q'.isTaken := by
    funext c name
    simp only [isTaken, outputNamed?, h]
  funext policy c
  simp only [nameFor, ht, h]

end Query

def RefObjectMap.joined (r : RefObjectMap) (source : RowSource) (childAlias label : String) :
    QuerySource :=
  .leftJoin source label (JoinCondition.allOf r.conditions childAlias label)

namespace Progress

def projectRead (s : Settings) (p : Progress) (r : TermRead) : Progress :=
  p.project s r.address r.references r.source

def withTerms (p : Progress) (s : Settings) (rule : String) (index : Nat) (m : PredicateObjectMap)
    (baseAlias : String) : Progress :=
  (p.addTerm s (.predicate rule index) m.predicate? baseAlias).addTerm s (.object rule index)
    m.object? baseAlias

theorem withTerms_eq (p : Progress) (s : Settings) (rule : String) (index : Nat)
    (m : PredicateObjectMap) (baseAlias : String) :
    p.withTerms s rule index m baseAlias
      = (m.termReads rule index baseAlias).foldl (projectRead s) p := by
  unfold withTerms PredicateObjectMap.termReads
  cases m.predicate? <;> cases m.object? <;> rfl

-- The equation of `addColumn` takes long to derive, so the definition is opened without it.

theorem addColumn_of_none {p : Progress} {s : Settings} {a : TermAddress} {table reference : String}
    (h : OutputColumn.ofReference? reference table = none) :
    p.addColumn s a table reference = p := by
  delta addColumn
  simp only [h]

theorem addColumn_query {p : Progress} {s : Settings} {a : TermAddress} {table reference : String}
    {c : OutputColumn} (h : OutputColumn.ofReference? reference table = some c) :
    (p.addColumn s a table reference).query
      = p.query.addOutput { c with label := some (p.query.nameFor s.onCollision c).value } := by
  delta addColumn
  simp only [h]

theorem addColumn_registry {p : Progress} {s : Settings} {a : TermAddress}
    {table reference : String} {c : OutputColumn}
    (h : OutputColumn.ofReference? reference table = some c) :
    (p.addColumn s a table reference).registry
      = p.registry.recordTerm a (p.query.nameFor s.onCollision c).value := by
  delta addColumn
  simp only [h]

theorem addColumn_events {p : Progress} {s : Settings} {a : TermAddress} {table reference : String}
    {c : OutputColumn} (h : OutputColumn.ofReference? reference table = some c) :
    (p.addColumn s a table reference).events
      = p.events ++ (p.query.nameFor s.onCollision c).events
        ++ if p.registry.hasAlias a (p.query.nameFor s.onCollision c).value then []
          else [.aliasRecorded a (p.query.nameFor s.onCollision c).value] := by
  delta addColumn
  simp only [h]

variable [SqlReader]

theorem resolve_eq_ok_iff {p : Progress} {s : Settings} {e : UnfoldError}
    {table : Option LogicalTable} {found : RowSource × Progress} :
    p.resolve s e table = .ok found ↔ ∃ l, table = some l
      ∧ (l.resolve s.dialect).value = some found.1
      ∧ found.2 = p.log (l.resolve s.dialect).events := by
  obtain ⟨source, q⟩ := found
  cases table with
  | none => simp [resolve]
  | some l =>
    cases h : (l.resolve s.dialect).value with
    | none => simp [resolve, h]
    | some first => simp [resolve, h, eq_comm]

def withBase (p : Progress) (s : Settings) (t : TriplesMap) (source : RowSource) : Progress where
  query := p.query.addSource (.base source (p.nextSource s))
  registry := p.registry.recordTable t.id (p.nextSource s)
  events := p.events ++ (t.table.resolve s.dialect).events

theorem addBase_eq_ok_iff {p p' : Progress} {s : Settings} {t : TriplesMap} :
    p.addBase s t = .ok p' ↔ ∃ source, (t.table.resolve s.dialect).value = some source
      ∧ p' = (p.withBase s t source).projectRead s
          ⟨.subject t.id, t.subject.columns, p.nextSource s⟩ := by
  unfold addBase
  rw [bind_eq_ok_iff]
  constructor
  · rintro ⟨⟨source, q⟩, hr, hp⟩
    obtain ⟨l, hl, hs, rfl⟩ := resolve_eq_ok_iff.mp hr
    obtain rfl := Option.some.inj hl
    exact ⟨source, hs, (Except.ok.inj hp).symm⟩
  · rintro ⟨source, hs, rfl⟩
    exact ⟨(source, p.log (t.table.resolve s.dialect).events),
      resolve_eq_ok_iff.mpr ⟨t.table, rfl, hs, rfl⟩, rfl⟩

def withParent (p : Progress) (s : Settings) (rule : String) (index : Nat) (r : RefObjectMap)
    (l : LogicalTable) : Progress where
  query := p.query
  registry := (p.registry.recordReference (.reference rule index) (p.nextSource s))
    |>.recordPredicateObject ⟨rule, index⟩ (p.nextSource s)
  events := p.events ++ (l.resolve s.dialect).events
    ++ [.parentJoined (.reference rule index) r.parent (p.nextSource s)]

def withJoin (p : Progress) (s : Settings) (rule : String) (index : Nat) (r : RefObjectMap)
    (l : LogicalTable) (source : RowSource) (childAlias : String) : Progress :=
  let read := (p.withParent s rule index r l).projectRead s
    ⟨.reference rule index, r.columns, p.nextSource s⟩
  { read with query := read.query.addSource (r.joined source childAlias (p.nextSource s)) }

theorem addParent_eq_ok_iff {p p' : Progress} {s : Settings} {rule : String} {index : Nat}
    {m : PredicateObjectMap} {r : RefObjectMap} {childAlias : String} :
    p.addParent s rule index m r childAlias = .ok p' ↔ ∃ l source, r.parentTable = some l
      ∧ (l.resolve s.dialect).value = some source
      ∧ p' = p.withJoin s rule index r l source childAlias := by
  unfold addParent
  rw [bind_eq_ok_iff]
  constructor
  · rintro ⟨⟨source, q⟩, hr, hp⟩
    obtain ⟨l, hl, hs, rfl⟩ := resolve_eq_ok_iff.mp hr
    exact ⟨l, source, hl, hs, (Except.ok.inj hp).symm⟩
  · rintro ⟨l, source, hl, hs, rfl⟩
    exact ⟨(source, p.log (l.resolve s.dialect).events),
      resolve_eq_ok_iff.mpr ⟨l, hl, hs, rfl⟩, rfl⟩

/-- A predicate-object map without a reference always succeeds, and one with a reference does so
exactly if its parent can be joined. -/
theorem addPredicateObject_eq_ok_iff {p p' : Progress} {s : Settings} {rule baseAlias : String}
    {m : PredicateObjectMap} {index : Nat} :
    addPredicateObject s rule baseAlias p (m, index) = .ok p' ↔
      (m.reference? = none ∧ p' = p.withTerms s rule index m baseAlias)
      ∨ ∃ r, m.reference? = some r
        ∧ (p.withTerms s rule index m baseAlias).addParent s rule index m r baseAlias = .ok p' := by
  unfold addPredicateObject
  cases h : m.reference? with
  | none => simp [withTerms, h, eq_comm]
  | some r => simp [withTerms, h]

end Progress

end TriplesSql
