import TriplesSql.Select.Type

/-!
# Rules that stand inside each other

Expressions, queries, row sources and statements hold one another. The rules of the grammar
therefore take the rules for what stands inside a phrase as a parameter.
-/

namespace TriplesSql.Select

open Reader

/-- A statement that has been read. Only a query is kept. -/
inductive Statement where
  | query (t : Tree)
  | explanation
  | other

/-- The rules for phrases that stand inside another phrase. -/
structure Rules where
  above : Nat → Reader Tree
  operand : Reader Tree
  query : Reader Tree
  source : Reader Tree
  statement : Reader Statement

namespace Rules

def empty : Rules := ⟨fun _ => mismatch, mismatch, mismatch, mismatch, mismatch⟩

variable (rules : Rules)

def expression : Reader Tree := rules.above 0

def optional (key : String) (p : Reader Tree) : Reader (List Tree) := do
  match ← behind key p with
  | some t => return [.word key, t]
  | none => return []

def sortKey : Reader Tree := do
  let key ← rules.expression
  let direction := (← tryOneOf ["ASC", "DESC"]).toList
  let nulls ← if ← tryKeywords ["NULLS", "FIRST"] then pure ["NULLS FIRST"]
    else if ← tryKeywords ["NULLS", "LAST"] then pure ["NULLS LAST"]
    else pure []
  return .spaced .clause (key :: (direction ++ nulls).map .word)

def sortKeys : Reader Tree := do return .listed (← separated rules.sortKey)

def order : Reader (List Tree) := do
  if ← tryKeywords ["ORDER", "BY"] then return [.word "ORDER BY", ← rules.sortKeys] else return []

def expressions : Reader Tree := do return .listed (← separated rules.expression)

def expressionsBehind (keys : List String) : Reader (List Tree) := do
  if ← tryKeywords keys then return [.word (" ".intercalate keys), ← rules.expressions]
  else return []

end Rules

def aliasColumn : Reader Tree := do
  let n ← nameTree
  match ← attempt SqlType.tree with
  | some type => return .spaced .clause [n, type]
  | none => return n

def tryAliasColumns : Reader (List Tree) := do
  if ← atSymbol "(" then return [.parenthesizedList (← inParens (separated aliasColumn))]
  else return []

def tryTableAlias : Reader (Option Tree) := do
  match ← tryAlias tableAliasStops with
  | none => return none
  | some n => return some (.spaced .aliased (n :: (← tryAliasColumns)))

def withTableAlias (source : Tree) : Reader Tree := do
  return .aliased source (← tryTableAlias)

end TriplesSql.Select
