import TriplesSql.Toml.Reader

/-!
# Growing TOML tables

Assignments and headers fill a tree of tables. A table is opened by its header once at most; headers
of tables inside it may come first and only imply it; and a table that dotted keys have made takes
no header of its own.
-/

namespace TriplesSql.Toml

inductive Origin where
  | dotted
  | implied
  | opened
  deriving DecidableEq, Repr

/-- A value in a growing table: one that is complete, a table, or the tables of one header in double
brackets, of which the last one still grows. -/
inductive Node where
  | value (v : Toml)
  | table (origin : Origin) (entries : List (String × Node))
  | tables (before : List (List (String × Node))) (last : List (String × Node))

abbrev Entries := List (String × Node)

namespace Node

mutual

def toToml : Node → Toml
  | .value v => v
  | .table _ entries => .table (entriesToToml entries)
  | .tables before last => .array (tablesToToml before ++ [.table (entriesToToml last)])

def entriesToToml : List (String × Node) → List (String × Toml)
  | [] => []
  | (name, n) :: rest => (name, toToml n) :: entriesToToml rest

def tablesToToml : List (List (String × Node)) → List Toml
  | [] => []
  | entries :: rest => .table (entriesToToml entries) :: tablesToToml rest

end

end Node

def alterEntry (name : String) (f : Option Node → Option Node) : Entries → Option Entries
  | [] => (f none).map fun n => [(name, n)]
  | (other, n) :: rest =>
    if other = name then (f (some n)).map fun n => (other, n) :: rest
    else (alterEntry name f rest).map ((other, n) :: ·)

/-- Assigns a value to a key. The tables on the path are made as needed; the last of them must be
made by dotted keys, and those in front of it must not have been opened by a header. -/
def assign : List String → String → Toml → Entries → Option Entries
  | [], name, v, entries =>
    alterEntry name (fun | none => some (.value v) | some _ => none) entries
  | step :: path, name, v, entries =>
    alterEntry step (fun
      | none => (assign path name v []).map (.table .dotted)
      | some (.table .dotted inner) => (assign path name v inner).map (.table .dotted)
      | some (.table .implied inner) =>
        if path.isEmpty then none else (assign path name v inner).map (.table .implied)
      | some (.tables before last) =>
        if path.isEmpty then none else (assign path name v last).map (.tables before)
      | some _ => none) entries

def assignAll (assignments : List (Reader.Key × Toml)) (entries : Entries) : Option Entries :=
  assignments.foldlM (fun entries (k, v) => assign k.path k.last v entries) entries

def inlineTable? (assignments : List (Reader.Key × Toml)) : Option Toml :=
  (assignAll assignments []).map fun entries => .table (Node.entriesToToml entries)

def atHeader (name : String) (f : Option Node → Option Node) : List String → Entries →
    Option Entries
  | [], entries => alterEntry name f entries
  | step :: path, entries =>
    alterEntry step (fun
      | none => (atHeader name f path []).map (.table .implied)
      | some (.table origin inner) => (atHeader name f path inner).map (.table origin)
      | some (.tables before last) => (atHeader name f path last).map (.tables before)
      | some (.value _) => none) entries

/-- A part of a document: a header, of which the first part has none, and the assignments up to the
next one. -/
structure Section where
  header : Option (Reader.Key × Bool)
  assignments : List (Reader.Key × Toml)

/-- Adds a part of a document to the parts before. A header in double brackets adds a table to
those that it added before; another one opens a table that is new or only implied so far. -/
def Section.addTo (s : Section) (root : Entries) : Option Entries :=
  match s.header with
  | none => assignAll s.assignments root
  | some (k, false) => atHeader k.last (fun
      | none => (assignAll s.assignments []).map (.table .opened)
      | some (.table .implied inner) => (assignAll s.assignments inner).map (.table .opened)
      | some _ => none) k.path root
  | some (k, true) => atHeader k.last (fun
      | none => (assignAll s.assignments []).map (.tables [])
      | some (.tables before last) =>
        (assignAll s.assignments []).map (.tables (before ++ [last]))
      | some _ => none) k.path root

end TriplesSql.Toml
