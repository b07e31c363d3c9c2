import TriplesSql.Query.Condition
import TriplesSql.Template.Matching

namespace TriplesSql

/-- How a term comes from a row. -/
inductive TermMap where
  | constant (term : String)
  | column (reference : String)
  | template (text : String)
  deriving DecidableEq, Repr

namespace TermMap

/-- The column references of a term map, each once, in order of first appearance. -/
def columns : TermMap → List String
  | .constant _ => []
  | .column reference => [reference]
  | .template text => Template.columns text

def text : TermMap → String
  | .constant s | .column s | .template s => s

def template? : TermMap → Option String
  | .template text => some text
  | _ => none

def columnIs (label reference value : String) : Condition :=
  .eq (.columnOf label (Text.unquote reference)) (.literal (.string value))

/-- The condition under which the rows of a source give a value, unless none can. -/
def conditionFor? (m : TermMap) (value label : String) : Option Condition :=
  match m with
  | .constant term => if term = value then some (.truth true) else none
  | .column reference => some (columnIs label reference value)
  | .template text =>
    (Template.bindings? text value).map fun bindings =>
      .allOf (bindings.map fun (name, v) => columnIs label name v)

end TermMap

end TriplesSql
