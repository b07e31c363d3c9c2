import TriplesSql.Mapping.Term

namespace TriplesSql

inductive LogicalTable where
  | tableName (name : String)
  | queryString (sql : String)
  | unsupported
  deriving DecidableEq, Repr

def LogicalTable.kind : LogicalTable → String
  | .tableName _ => "table_name"
  | .queryString _ => "query_string"
  | .unsupported => "unsupported"

/-- A column of the child and a column of the parent that have to be equal. -/
structure JoinCondition where
  child : String
  parent : String
  deriving DecidableEq, Repr

def JoinCondition.condition (c : JoinCondition) (childAlias parentAlias : String) : Condition :=
  .eq (.columnOf childAlias (Text.unquote c.child)) (.columnOf parentAlias (Text.unquote c.parent))

def JoinCondition.allOf (cs : List JoinCondition) (childAlias parentAlias : String) : Condition :=
  .allOf (cs.map fun c => c.condition childAlias parentAlias)

/-- A reference to the subjects of a parent triples map. The parent's table and subject are known
once the document is linked, or if they were written with the reference. -/
structure RefObjectMap where
  parent : String
  conditions : List JoinCondition
  parentTable : Option LogicalTable
  parentSubject : Option TermMap
  deriving DecidableEq, Repr

namespace RefObjectMap

def named (parent : String) (conditions : List JoinCondition) : RefObjectMap :=
  ⟨parent, conditions, none, none⟩

/-- The columns of the parent's subject, none while it is not known. -/
def columns (r : RefObjectMap) : List String :=
  match r.parentSubject with
  | none => []
  | some subject => subject.columns

def childColumns (r : RefObjectMap) : List String := r.conditions.map (·.child)

def hasConditions (r : RefObjectMap) : Bool := !r.conditions.isEmpty

end RefObjectMap

end TriplesSql
