import TriplesSql.Query.Basic
import TriplesSql.Settings.Basic
import TriplesSql.Unfold.Event
import TriplesSql.Unfold.Registry

/-!
# Output columns of a query in progress

Each column reference of a term map becomes an output column whose name is made of the name of its
source and its own name. If that name is in use for another column, the settings say whether it gets
a number or is used twice.
-/

namespace TriplesSql

def sourceName (aliasPrefix : String) (n : Nat) : String := aliasPrefix ++ toString n

/-- The output column of a reference that is read from a source, without a name yet. A reference
that names nothing has none. -/
def OutputColumn.ofReference? (reference table : String) : Option OutputColumn :=
  let column := Text.unquote reference
  if column.isEmpty then none else some ⟨table, column, none⟩

/-- The name of a column of a source: characters but ASCII letters and digits become
underscores. -/
def outputName (table column : String) : String :=
  table ++ "_"
    ++ String.ofList (column.toList.map fun c => if c.isAlphanum then c else '_')

/-- Whether a name is in use for another column than a given one: the first output column with the
name counts. -/
def Query.isTaken (q : Query) (c : OutputColumn) (name : String) : Bool :=
  match q.outputNamed? name with
  | none => false
  | some other => !other.sameColumn c

def numbered (name : String) (n : Nat) : String := name ++ "_" ++ toString n

/-- The first number from `n` on that makes a name free. The fuel bounds the numbers tried. -/
def firstFree (taken : String → Bool) (name : String) : Nat → Nat → String
  | 0, n => numbered name n
  | fuel + 1, n =>
    if taken (numbered name n) then firstFree taken name fuel (n + 1) else numbered name n

/-- The name of a new output column. Each output column takes one name at most, so one more number
than there are columns is enough to find a free one. -/
def Query.nameFor (q : Query) (policy : CollisionPolicy) (c : OutputColumn) : Logged String :=
  let name := outputName c.table c.column
  if q.isTaken c name then
    match policy with
    | .keep => ⟨name, [.aliasShared name c.column]⟩
    | .rename =>
      let renamed := firstFree (q.isTaken c) name q.outputs.length 2
      ⟨renamed, [.aliasRenamed name renamed c.column]⟩
  else ⟨name, []⟩

/-- A query in progress with the names given in it and the events so far. -/
structure Progress where
  query : Query
  registry : Registry
  events : List Event

namespace Progress

def start (d : Dialect) (events : List Event) : Progress := ⟨.empty d, ∅, events⟩

def log (p : Progress) (events : List Event) : Progress :=
  { p with events := p.events ++ events }

def nextSource (p : Progress) (s : Settings) : String :=
  sourceName s.aliasPrefix (p.query.sources.length + 1)

/-- Adds one column of a source and records its name for a term map. -/
def addColumn (s : Settings) (a : TermAddress) (table : String) (p : Progress)
    (reference : String) : Progress :=
  match OutputColumn.ofReference? reference table with
  | none => p
  | some c =>
    let name := p.query.nameFor s.onCollision c
    { query := p.query.addOutput { c with label := some name.value }
      registry := p.registry.recordTerm a name.value
      events := p.events ++ name.events
        ++ if p.registry.hasAlias a name.value then [] else [.aliasRecorded a name.value] }

def project (s : Settings) (a : TermAddress) (references : List String) (table : String)
    (p : Progress) : Progress :=
  references.foldl (addColumn s a table) p

end Progress

end TriplesSql
