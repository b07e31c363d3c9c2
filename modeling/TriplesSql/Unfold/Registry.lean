import TriplesSql.Json.Value
import TriplesSql.Mapping.Address

/-!
# The registry of names

Queries give new names to columns and to row sources. The registry keeps them by the address of what
they were given to. A term map may have several names, in the order in which they were recorded;
merging appends the names that are new and takes over all others.
-/

namespace TriplesSql

open Std

/-- The names that were given in queries. -/
structure Registry where
  terms : ExtTreeMap TermAddress (List String)
  references : ExtTreeMap TermAddress String
  predicateObjects : ExtTreeMap PredicateObjectAddress String
  tables : ExtTreeMap String String
  deriving DecidableEq

namespace Registry

def empty : Registry := ⟨∅, ∅, ∅, ∅⟩

instance : EmptyCollection Registry := ⟨empty⟩

instance : Inhabited Registry := ⟨empty⟩

def isEmpty (r : Registry) : Bool :=
  r.terms.isEmpty && r.references.isEmpty && r.predicateObjects.isEmpty && r.tables.isEmpty

def hasAlias (r : Registry) (a : TermAddress) (label : String) : Bool :=
  ((r.terms[a]?).getD []).contains label

/-- Gives a term map a name behind those that it has, unless it has this one. -/
def recordTerm (r : Registry) (a : TermAddress) (label : String) : Registry :=
  if r.hasAlias a label then r
  else { r with terms := r.terms.insert a ((r.terms[a]?).getD [] ++ [label]) }

def recordReference (r : Registry) (a : TermAddress) (label : String) : Registry :=
  { r with references := r.references.insert a label }

def recordPredicateObject (r : Registry) (a : PredicateObjectAddress) (label : String) :
    Registry := { r with predicateObjects := r.predicateObjects.insert a label }

def recordTable (r : Registry) (rule label : String) : Registry :=
  { r with tables := r.tables.insert rule label }

theorem terms_recordTerm (r : Registry) (a : TermAddress) (label : String) :
    (r.recordTerm a label).terms = if label ∈ (r.terms[a]?).getD [] then r.terms
      else r.terms.insert a ((r.terms[a]?).getD [] ++ [label]) := by
  unfold recordTerm hasAlias
  simp only [List.contains_iff_mem]
  split <;> rfl

@[simp]
theorem references_recordTerm (r : Registry) (a : TermAddress) (label : String) :
    (r.recordTerm a label).references = r.references := by
  unfold recordTerm
  split <;> rfl

@[simp]
theorem predicateObjects_recordTerm (r : Registry) (a : TermAddress) (label : String) :
    (r.recordTerm a label).predicateObjects = r.predicateObjects := by
  unfold recordTerm
  split <;> rfl

@[simp]
theorem tables_recordTerm (r : Registry) (a : TermAddress) (label : String) :
    (r.recordTerm a label).tables = r.tables := by
  unfold recordTerm
  split <;> rfl

def recordTerms (r : Registry) (a : TermAddress) (aliases : List String) : Registry :=
  aliases.foldl (fun r label => r.recordTerm a label) r

def merge (r other : Registry) : Registry :=
  let r := other.terms.toList.foldl (fun r (a, aliases) => r.recordTerms a aliases) r
  let r := other.references.toList.foldl (fun r (a, label) => r.recordReference a label) r
  let r := other.predicateObjects.toList.foldl
    (fun r (a, label) => r.recordPredicateObject a label) r
  other.tables.toList.foldl (fun r (rule, label) => r.recordTable rule label) r

structure Summary where
  terms : ExtTreeMap String (List String)
  references : ExtTreeMap String String
  predicateObjects : ExtTreeMap String String
  tables : ExtTreeMap String String

def shown {α β : Type} (label : α → String) (entries : List (α × β)) : ExtTreeMap String β :=
  entries.foldl (fun m (key, v) => m.insert (label key) v) ∅

def summary (r : Registry) : Summary where
  terms := shown TermAddress.display r.terms.toList
  references := shown TermAddress.display r.references.toList
  predicateObjects := shown PredicateObjectAddress.display r.predicateObjects.toList
  tables := r.tables

def Summary.toJson (s : Summary) : Json :=
  .record [("term_maps", .record (s.terms.toList.map fun (key, aliases) =>
      (key, .array (aliases.map Json.text)))),
    ("ref_object_maps", .record (s.references.toList.map fun (key, label) => (key, .text label))),
    ("predicate_object_maps",
      .record (s.predicateObjects.toList.map fun (key, label) => (key, .text label))),
    ("logical_tables", .record (s.tables.toList.map fun (key, label) => (key, .text label)))]

end Registry

end TriplesSql
