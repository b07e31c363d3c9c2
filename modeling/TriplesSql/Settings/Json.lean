import TriplesSql.Json.Decode
import TriplesSql.Settings.Basic

namespace TriplesSql

def Dialect.ofJson? (v : Json) : Option Dialect := do (ofName (← v.string?)).toOption

def CollisionPolicy.ofJson? : Json → Option CollisionPolicy
  | .string (some name) => ofName? name
  | .object [(some name, .null)] => ofName? name
  | _ => none

end TriplesSql
