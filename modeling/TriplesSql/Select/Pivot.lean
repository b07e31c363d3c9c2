import TriplesSql.Select.Operand

namespace TriplesSql.Select

open Reader

def withName (p : Reader Tree) : Reader Tree := do
  let t ← p
  return .aliased t (← behind "AS" nameTree)

def unpivot : Reader Tree := inParens do
  let cells ← nameTree
  keyword "FOR"
  let n ← nameTree
  keyword "IN"
  return .spaced .clause [cells, .word "FOR", n, .word "IN", ← nameList]

namespace Rules

variable (rules : Rules)

def gathering : Reader Tree := withName do
  match ← next with
  | .word n _ => rules.call (.leaf .name n.text)
  | _ => mismatch

def turnedValues : Reader Tree := do
  if ← tryKeyword "ANY" then return .spaced .clause (.word "ANY" :: (← rules.order))
  else if ← atQuery then rules.query
  else return .listed (← separated (withName rules.expression))

def pivot : Reader Tree := inParens do
  let calls ← separated rules.gathering
  keyword "FOR"
  let column ← qualifiedName
  keyword "IN"
  let values ← inParens rules.turnedValues
  let otherwise ← if ← tryKeywords ["DEFAULT", "ON", "NULL"] then
      let e ← inParens rules.expression
      pure [.word "DEFAULT ON NULL", .parenthesized .group e]
    else pure []
  let source : Tree := .parenthesized .list values
  return .spaced .clause
    ([.listed calls, .word "FOR", column, .word "IN", source] ++ otherwise)

def tryTurn : Reader (Option (Tree → Tree)) := do
  let key ← match ← tryOneOf ["PIVOT", "UNPIVOT"] with
    | none => return none
    | some key => pure key
  let turn ← if key = "PIVOT" then rules.pivot else unpivot
  let label ← tryTableAlias
  return some fun source => .aliased
    (.spaced .table [source, .tight .clause [.word key, .parenthesized .clause turn]]) label

def withTurns (source : Tree) : Reader Tree := do
  return (← many rules.tryTurn).foldl (fun t turn => turn t) source

end Rules

end TriplesSql.Select
