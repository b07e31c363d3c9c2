import TriplesSql.Dialect
import TriplesSql.Mapping.Address
import TriplesSql.Select.Statement

namespace TriplesSql

inductive UnfoldError where
  | unsupportedTable (rule : String)
  | missingParent (predicate : String)
  deriving DecidableEq, Repr

def UnfoldError.message : UnfoldError → String
  | .unsupportedTable rule => "logical table of triples map '" ++ rule ++ "' has no usable source"
  | .missingParent predicate => "parent logical table not found for " ++ predicate

inductive Level where
  | error
  | warn
  | info
  | debug
  deriving DecidableEq, Repr

def Level.name : Level → String
  | .error => "ERROR"
  | .warn => "WARN"
  | .info => "INFO"
  | .debug => "DEBUG"

inductive Event where
  | ruleStarted (rule : String)
  | ruleFailed (rule : String) (error : UnfoldError)
  | subjectMismatch (rule subject : String)
  | queryUnread (dialect : Dialect) (error : Select.ReadError)
  | tableUnusable (kind : String)
  | parentJoined (address : TermAddress) (parent label : String)
  | aliasRecorded (address : TermAddress) (label : String)
  | aliasShared (label column : String)
  | aliasRenamed (label renamed column : String)
  deriving DecidableEq, Repr

namespace Event

def level : Event → Level
  | .ruleFailed .. => .error
  | .queryUnread .. | .tableUnusable .. | .aliasShared .. | .aliasRenamed .. => .warn
  | .ruleStarted .. | .subjectMismatch .. => .info
  | .parentJoined .. | .aliasRecorded .. => .debug

def message : Event → String
  | .ruleStarted .. => "unfolding triples map"
  | .ruleFailed .. => "error while unfolding triples map"
  | .subjectMismatch .. => "subject cannot match triples map"
  | .queryUnread .. => "unable to parse logical table query, passing SQL text through"
  | .tableUnusable .. => "invalid logical table type"
  | .parentJoined .. => "joining parent logical table"
  | .aliasRecorded .. => "registered column alias"
  | .aliasShared .. => "alias already bound to another column"
  | .aliasRenamed .. => "alias already bound to another column, renamed"

def fields : Event → List (String × String)
  | .ruleStarted rule => [("triples_map", rule)]
  | .ruleFailed rule error => [("triples_map", rule), ("error", error.message)]
  | .subjectMismatch rule subject => [("triples_map", rule), ("subject", subject)]
  | .queryUnread dialect _ => [("dialect", dialect.name)]
  | .tableUnusable kind => [("kind", kind)]
  | .parentJoined address parent label =>
    [("ref_object_map", address.display), ("parent", parent), ("alias", label)]
  | .aliasRecorded address label => [("term_map", address.display), ("alias", label)]
  | .aliasShared label column => [("alias", label), ("column", column)]
  | .aliasRenamed label renamed column =>
    [("alias", label), ("renamed", renamed), ("column", column)]

/-- All fields of an event. The error of query text that is not read is worded by its reader. -/
def allFields : Event → List (String × String)
  | .queryUnread dialect error => ("error", error.message) :: fields (.queryUnread dialect error)
  | e => e.fields

end Event

structure Logged (α : Type) where
  value : α
  events : List Event

end TriplesSql
