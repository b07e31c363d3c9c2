import TriplesSql.Select.Change
import TriplesSql.Select.Output

/-!
# Queries in query text

A query is a body with what surrounds it: common tables before it, and order, limits, locks and an
output format behind it. A body is a selection, a list of rows, a table, a query between
parentheses, or a combination of bodies. A change of rows behind common tables is a query too.
-/

namespace TriplesSql.Select

open Reader

/-- The rows of a table behind the keyword. It takes three lexemes, whatever the last two are, and
only the texts of names count. -/
def wholeTable : Reader Tree := do
  let ahead ← get
  modify (List.drop 3)
  match ahead.take 3 with
  | [.word schema _, .symbol ".", .word n _] =>
    return .spaced .table [.word "TABLE", .leaf .name (schema.text ++ "." ++ n.text)]
  | _ :: .symbol "." :: _ => mismatch
  | .word n _ :: _ => return .spaced .table [.word "TABLE", .leaf .name n.text]
  | _ => mismatch

def quantifier : Reader (List Tree) := do
  if ← tryKeywords ["DISTINCT", "BY", "NAME"] then return [.word "DISTINCT BY NAME"]
  else if ← tryKeywords ["ALL", "BY", "NAME"] then return [.word "ALL BY NAME"]
  else if ← tryKeywords ["BY", "NAME"] then return [.word "BY NAME"]
  else return (← tryOneOf ["ALL", "DISTINCT"]).toList.map .word

def combinedBy (operators : List String) (p : Reader Tree) : Reader Tree := do
  let first ← p
  let others ← many do
    match ← tryOneOf operators with
    | none => return none
    | some operator =>
      let which ← quantifier
      return some (.word operator :: which ++ [← p])
  return others.foldl (fun l part => .spaced .combination (l :: part)) first

structure Bounds where
  limit : Option Tree
  offset : Option Tree

def Bounds.trees (b : Bounds) : List Tree :=
  (b.limit.toList.flatMap fun e => [.word "LIMIT", e]) ++
    b.offset.toList.flatMap fun e => [.word "OFFSET", e]

def tryFetch : Reader (List Tree) := do
  if ← tryKeyword "FETCH" then
    let _ ← oneOf ["FIRST", "NEXT"]
    let quantity ← if (← tryOneOf ["ROW", "ROWS"]).isSome then pure [] else do
      let n ← value
      let percent := if ← tryKeyword "PERCENT" then [Tree.word "PERCENT"] else []
      let _ ← oneOf ["ROW", "ROWS"]
      pure (n :: percent)
    let ties ← if ← tryKeyword "ONLY" then pure "ONLY" else do
      keywords ["WITH", "TIES"]
      pure "WITH TIES"
    return .word "FETCH FIRST" :: quantity ++ [.word "ROWS", .word ties]
  else return []

def lock : Reader (List Tree) := do
  let kind ← oneOf ["UPDATE", "SHARE"]
  let table ← match ← behind "OF" qualifiedName with
    | some n => pure [.word "OF", n]
    | none => pure []
  let waiting ← if ← tryKeyword "NOWAIT" then pure [.word "NOWAIT"]
    else if ← tryKeywords ["SKIP", "LOCKED"] then pure [.word "SKIP LOCKED"]
    else pure []
  return .word "FOR" :: .word kind :: table ++ waiting

/-- The locks that a query takes and its output format. Nothing may stand behind the format. The
fuel bounds the number of locks. -/
def locksAndFormat : Nat → Reader (List Tree)
  | 0 => return []
  | fuel + 1 => do
    if ← tryKeyword "FOR" then
      match ← tryOutputFormat with
      | some format => return [format]
      | none =>
        let first ← lock
        return first ++ (← locksAndFormat fuel)
    else return []

namespace Rules

variable (rules : Rules)

/-- Rows of expressions, behind the keyword. A mark on one row is written on all of them. -/
def rows : Reader Tree := do
  let mayBeEmpty ← inDialects [.mysql]
  let items ← separated do
    let marked ← tryKeyword "ROW"
    let cells ← inParens do
      if mayBeEmpty && (← atSymbol ")") then return [] else separated rules.expression
    return (marked, Tree.parenthesizedList cells)
  let mark : List Tree := if items.any (·.1) then [.word "ROW"] else []
  let written := items.map fun (_, row) => Tree.tight .list (mark ++ [row])
  return .spaced .rows [.word "VALUES", .listed written]

def singleBody : Reader Tree := do
  if (← peekKey) = "SELECT" then rules.selection
  else if ← atSymbol "(" then return .parenthesized .query (← inParens rules.query)
  else if ← tryKeyword "VALUES" then rules.rows
  else if ← tryKeyword "TABLE" then wholeTable
  else mismatch

/-- A body. The intersection binds tighter than the other combinations. -/
def body : Reader Tree :=
  combinedBy ["UNION", "EXCEPT"] (combinedBy ["INTERSECT"] rules.singleBody)

def limit : Reader (Option Tree) := do
  if ← tryKeyword "ALL" then return none else return some (← rules.expression)

def offset : Reader Tree := do
  let e ← rules.expression
  return .spaced .clause (e :: (← tryOneOf ["ROW", "ROWS"]).toList.map .word)

/-- Bounds with the next of their clauses: a limit if there is none yet, then an offset. One dialect
writes the offset and a comma in front of the limit. -/
def nextBounds (b : Bounds) : Reader Bounds := do
  let b ← if ← pure b.limit.isNone <&&> tryKeyword "LIMIT" then
      pure { b with limit := ← rules.limit }
    else pure b
  let b ← if ← pure b.offset.isNone <&&> tryKeyword "OFFSET" then
      pure { b with offset := some (← rules.offset) }
    else pure b
  let commas := (← inDialects [.mysql]) && b.limit.isSome && b.offset.isNone
  if ← pure commas <&&> trySymbol "," then
    return ⟨some (← rules.expression), b.limit⟩
  else return b

def queryBounds : Reader Bounds := do rules.nextBounds (← rules.nextBounds ⟨none, none⟩)

def commonTable : Reader Tree := do
  let n ← nameTree
  let columns ← if (← peekKey) = "AS" then pure [] else tryAliasColumns
  keyword "AS"
  let stored ← if ← inDialects [.postgres] <&&> tryKeyword "MATERIALIZED" then
      pure [.word "MATERIALIZED"]
    else if ← inDialects [.postgres] <&&> tryKeywords ["NOT", "MATERIALIZED"] then
      pure [.word "NOT MATERIALIZED"]
    else pure []
  let q ← inParens rules.query
  let source ← optional "FROM" nameTree
  return .spaced .clause
    (n :: columns ++ .word "AS" :: stored ++ .parenthesized .subquery q :: source)

def commonTables : Reader (List Tree) := do
  if ← tryKeyword "WITH" then
    let recursive := if ← tryKeyword "RECURSIVE" then [Tree.word "RECURSIVE"] else []
    let tables ← separated rules.commonTable
    return .word "WITH" :: recursive ++ [.listed tables]
  else return []

def boundedBody : Reader (List Tree) := do
  let main ← rules.body
  let order ← rules.order
  let bounds ← rules.queryBounds
  let fetched ← tryFetch
  return main :: order ++ bounds.trees ++ fetched ++ (← locksAndFormat (← bound))

def queryRule : Reader Tree := do
  let tables ← rules.commonTables
  let main ← if ← tryKeyword "INSERT" then pure [← rules.insertion "INSERT"]
    else if ← tryKeyword "UPDATE" then pure [← rules.modification]
    else rules.boundedBody
  return .spaced .query (tables ++ main)

end Rules

end TriplesSql.Select
