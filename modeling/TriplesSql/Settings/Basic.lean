import TriplesSql.Dialect

namespace TriplesSql

/-- What happens when the name of a column is in use for another column. -/
inductive CollisionPolicy where
  | rename
  | keep
  deriving DecidableEq, Repr

namespace CollisionPolicy

def name : CollisionPolicy → String
  | .rename => "rename"
  | .keep => "keep"

def ofName? : String → Option CollisionPolicy
  | "rename" => some .rename
  | "keep" => some .keep
  | _ => none

end CollisionPolicy

structure Settings where
  dialect : Dialect := .postgres
  aliasPrefix : String := "T"
  onCollision : CollisionPolicy := .rename
  deriving DecidableEq, Repr

namespace Settings

inductive Unusable where
  | emptyPrefix
  | prefixSigns (text : String)
  deriving DecidableEq, Repr

def Unusable.message : Unusable → String
  | .emptyPrefix => "unfold.alias_prefix must not be empty"
  | .prefixSigns text => "unfold.alias_prefix must be alphanumeric, got '" ++ text ++ "'"

def isPrefixChar (c : Char) : Bool := c.isAlphanum || c == '_'

/-- Checks that the prefix is not empty and has only usable characters. -/
def validate (s : Settings) : Except Unusable Unit :=
  if s.aliasPrefix.isEmpty then .error .emptyPrefix
  else if s.aliasPrefix.toList.all isPrefixChar then .ok ()
  else .error (.prefixSigns s.aliasPrefix)

end Settings

end TriplesSql
