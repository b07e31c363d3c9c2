import TriplesSql.Mapping.Document
import TriplesSql.Unfold.Progress

/-!
# Queries of rules

The table of a rule is the first source of its query, and each reference joins the table of its
parent. The columns of the term maps are the output columns. A rule whose table or one of whose
parents has no row source gives no query. Query text that cannot be read is passed through, so that
it never stops a rule.
-/

namespace TriplesSql

/-- What reads query text. Rules are unfolded with any reader. -/
class SqlReader where
  read : Dialect → String → Except Select.ReadError Select.Tree

variable [SqlReader]

def RowSource.ofQueryText (d : Dialect) (sql : String) : Logged RowSource :=
  let terminated := Terminator.ensure sql
  match SqlReader.read d terminated with
  | .ok tree => ⟨.query tree, []⟩
  | .error e => ⟨.text terminated, [.queryUnread d e]⟩

/-- The row source of a logical table in a dialect, unless its kind has none. -/
def LogicalTable.resolve (d : Dialect) : LogicalTable → Logged (Option RowSource)
  | .tableName name => ⟨some (.table (.ofText name)), []⟩
  | .queryString sql =>
    let found := RowSource.ofQueryText d sql
    ⟨some found.value, found.events⟩
  | .unsupported => ⟨none, [.tableUnusable LogicalTable.unsupported.kind]⟩

/-- An error that ends the work on a rule, with the events so far. -/
structure Stop where
  error : UnfoldError
  events : List Event

/-- The query of a rule with the names given in it. -/
structure Unfolded where
  query : Query
  registry : Registry

namespace Progress

def resolve (p : Progress) (s : Settings) (e : UnfoldError) (table : Option LogicalTable) :
    Except Stop (RowSource × Progress) :=
  match table with
  | none => .error ⟨e, p.events⟩
  | some table =>
    let found := table.resolve s.dialect
    match found.value with
    | none => .error ⟨e, p.events ++ found.events⟩
    | some source => .ok (source, p.log found.events)

def addBase (p : Progress) (s : Settings) (t : TriplesMap) : Except Stop Progress := do
  let (source, p) ← p.resolve s (.unsupportedTable t.id) (some t.table)
  let label := p.nextSource s
  return { p with
    query := p.query.addSource (.base source label)
    registry := p.registry.recordTable t.id label }
    |>.project s (.subject t.id) t.subject.columns label

/-- Joins the parent of a reference and adds the columns of the parent's subject. -/
def addParent (p : Progress) (s : Settings) (rule : String) (index : Nat) (m : PredicateObjectMap)
    (r : RefObjectMap) (childAlias : String) : Except Stop Progress := do
  let (source, p) ← p.resolve s (.missingParent m.predicateName) r.parentTable
  let label := p.nextSource s
  let a := TermAddress.reference rule index
  let p := { p with
    registry := (p.registry.recordReference a label).recordPredicateObject ⟨rule, index⟩ label }
    |>.log [.parentJoined a r.parent label]
    |>.project s a r.columns label
  return { p with
    query := p.query.addSource
      (.leftJoin source label (JoinCondition.allOf r.conditions childAlias label)) }

def addTerm (p : Progress) (s : Settings) (a : TermAddress) (m : Option TermMap) (table : String) :
    Progress :=
  match m with
  | none => p
  | some m => p.project s a m.columns table

def addPredicateObject (s : Settings) (rule baseAlias : String) (p : Progress)
    (entry : PredicateObjectMap × Nat) : Except Stop Progress :=
  let (m, index) := entry
  let p := p.addTerm s (.predicate rule index) m.predicate? baseAlias
    |>.addTerm s (.object rule index) m.object? baseAlias
  match m.reference? with
  | none => .ok p
  | some r => p.addParent s rule index m r baseAlias

def addPredicateObjects (p : Progress) (s : Settings) (t : TriplesMap) (baseAlias : String) :
    Except Stop Progress :=
  t.predicateObjects.zipIdx.foldlM (addPredicateObject s t.id baseAlias) p

end Progress

namespace TriplesMap

def baseAlias (s : Settings) : String := sourceName s.aliasPrefix 1

def unfoldAll (t : TriplesMap) (s : Settings) : Except Stop Progress := do
  let p ← (Progress.start s.dialect [.ruleStarted t.id]).addBase s t
  p.addPredicateObjects s t (baseAlias s)

/-- The query of a rule, restricted to the rows of one subject if one is given. There is none if no
row can give that subject. -/
def unfold (t : TriplesMap) (s : Settings) (subject : Option String) :
    Logged (Except UnfoldError (Option Unfolded)) :=
  match t.unfoldAll s with
  | .error stop => ⟨.error stop.error, stop.events⟩
  | .ok p =>
    match subject with
    | none => ⟨.ok (some ⟨p.query, p.registry⟩), p.events⟩
    | some value =>
      match t.subject.conditionFor? value (baseAlias s) with
      | some condition => ⟨.ok (some ⟨p.query.restrict condition, p.registry⟩), p.events⟩
      | none => ⟨.ok none, p.events ++ [.subjectMismatch t.id value]⟩

/-- The query of the table and the subject of a rule alone. -/
def unfoldSubject (t : TriplesMap) (s : Settings) : Logged (Except UnfoldError Unfolded) :=
  match (Progress.start s.dialect []).addBase s t with
  | .error stop => ⟨.error stop.error, stop.events⟩
  | .ok p => ⟨.ok ⟨p.query, p.registry⟩, p.events⟩

end TriplesMap

end TriplesSql
