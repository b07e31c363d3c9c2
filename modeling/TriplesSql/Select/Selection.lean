import TriplesSql.Select.Source

namespace TriplesSql.Select

open Reader

def tryTarget : Reader (List Tree) := do
  if ← tryKeyword "INTO" then
    let temporary := (← tryOneOf ["TEMP", "TEMPORARY"]).toList.map fun _ => Tree.word "TEMPORARY"
    let unlogged := if ← tryKeyword "UNLOGGED" then [Tree.word "UNLOGGED"] else []
    let table := if ← tryKeyword "TABLE" then [Tree.word "TABLE"] else []
    return .word "INTO" :: temporary ++ unlogged ++ table ++ [← qualifiedName]
  else return []

def namesOrName : Reader Tree := do
  if ← atSymbol "(" then nameList else nameTree

def isBareFrom : Tree → Bool
  | .leaf .name s => s.toLower = "from"
  | _ => false

/-- The expression with its alias where the alias stands in front, with an equals sign. -/
def aliasInFront? : Tree → Option Tree
  | .node .binary _ [.leaf .name n, .leaf .sign "=", e] => some (.aliased e (some (.leaf .name n)))
  | _ => none

namespace Rules

variable (rules : Rules)

def replacement : Reader Tree := do
  let e ← rules.expression
  let words := if ← tryKeyword "AS" then [Tree.word "AS"] else []
  return .spaced .aliased (e :: words ++ [← nameTree])

def starOptions : Reader (List Tree) := do
  if ← inDialects [.duckdb] then
    let excluded ← optional "EXCLUDE" namesOrName
    let replaced ← optional "REPLACE" do
      return .parenthesizedList (← inParens (separated rules.replacement))
    return excluded ++ replaced
  else return []

def selectItem : Reader Tree := do
  match ← tryStar with
  | some t => return .spaced .wildcard (t :: (← rules.starOptions))
  | none =>
    let e ← rules.expression
    if isBareFrom e then mismatch
    else match aliasInFront? e, ← inDialects [.tsql] with
      | some t, true => return t
      | _, _ => return .aliased e (← tryAlias columnAliasStops)

def selectItems : Reader Tree := do return .listed (← separated rules.selectItem)

def distinctRows : Reader (List Tree) := do
  let all ← tryKeyword "ALL"
  if ← tryKeyword "DISTINCT" then
    if all then mismatch
    else if ← tryKeyword "ON" then
      let keys ← inParens do if ← atSymbol ")" then return [] else separated rules.expression
      return [.word "DISTINCT ON", .parenthesizedList keys]
    else return [.word "DISTINCT"]
  else return []

def topRows : Reader (List Tree) := do
  if ← tryKeyword "TOP" then
    let quantity ← if ← atSymbol "(" then
        pure (.parenthesized .group (← inParens rules.expression))
      else countTree
    let percent := if ← tryKeyword "PERCENT" then [Tree.word "PERCENT"] else []
    let ties := if ← tryKeywords ["WITH", "TIES"] then [Tree.word "WITH TIES"] else []
    return .word "TOP" :: quantity :: percent ++ ties
  else return []

def viewAliasStops : List String := ["WHERE", "GROUP", "CLUSTER", "HAVING", "LATERAL"]

def tryLateralView : Reader (Option (List Tree)) := do
  if ← tryKeywords ["LATERAL", "VIEW"] then
    let outer := if ← tryKeyword "OUTER" then [Tree.word "OUTER"] else []
    let e ← rules.expression
    let n ← qualifiedName
    let columns := (← separated (tryAlias viewAliasStops)).filterMap id
    let named := if columns.isEmpty then [] else [.word "AS", Tree.listed columns]
    return some (.word "LATERAL VIEW" :: outer ++ e :: n :: named)
  else return none

def groupSet : Reader (List Tree) :=
  inParens do if ← atSymbol ")" then return [] else separated rules.expression

def groupLevel : Reader Tree := do
  if ← atSymbol "(" then
    match ← rules.groupSet with
    | [item] => return item
    | items => return .parenthesizedList items
  else rules.expression

def groupParts (key : String) (part : Reader Tree) : Reader Tree := do
  return .spaced .clause [.word key, .parenthesizedList (← inParens (separated part))]

def groupKey : Reader Tree := do
  if ← inDialects [.postgres, .duckdb] then
    if ← tryKeywords ["GROUPING", "SETS"] then
      groupParts "GROUPING SETS" do return .parenthesizedList (← rules.groupSet)
    else if ← tryKeyword "CUBE" then groupParts "CUBE" rules.groupLevel
    else if ← tryKeyword "ROLLUP" then groupParts "ROLLUP" rules.groupLevel
    else if ← trySymbols ["(", ")"] then return .parenthesizedList []
    else rules.expression
  else rules.expression

def grouping : Reader (List Tree) := do
  if ← tryKeywords ["GROUP", "BY"] then
    if ← tryKeyword "ALL" then return [.word "GROUP BY ALL"]
    else return [.word "GROUP BY", .listed (← separated rules.groupKey)]
  else return []

def namedWindow : Reader Tree := do
  let n ← nameTree
  keyword "AS"
  symbol "("
  return .spaced .clause [n, .word "AS", ← rules.window]

def windowClauses : Reader (List Tree) := do
  let windows := optional "WINDOW" do return .listed (← separated rules.namedWindow)
  let first ← windows
  let condition ← optional "QUALIFY" rules.expression
  let last ← if first.isEmpty && !condition.isEmpty then windows else pure []
  return first ++ condition ++ last

def hierarchyStart : Reader Tree := do
  keywords ["START", "WITH"]
  rules.expression

def hierarchyLinks : Reader Tree := do
  keywords ["CONNECT", "BY"]
  withReader (fun context => { context with inHierarchy := true }) rules.expressions

/-- The hierarchy of the rows, if one dialect says it. The start may stand behind the links. -/
def hierarchy : Reader (List Tree) := do
  if ← inDialects [.tsql] then
    let written (start links : Tree) : List Tree :=
      [.word "START WITH", start, .word "CONNECT BY", links]
    match ← peekKey with
    | "START" =>
      let start ← rules.hierarchyStart
      return written start (← rules.hierarchyLinks)
    | "CONNECT" =>
      let links ← rules.hierarchyLinks
      return written (← rules.hierarchyStart) links
    | _ => return []
  else return []

def selection : Reader Tree := do
  keyword "SELECT"
  let distinct ← rules.distinctRows
  let top ← rules.topRows
  let items ← rules.selectItems
  let target ← tryTarget
  let sources ← optional "FROM" rules.sources
  let views ← many rules.tryLateralView
  let filter ← optional "WHERE" rules.expression
  let groups ← rules.grouping
  let cluster ← rules.expressionsBehind ["CLUSTER", "BY"]
  let distribution ← rules.expressionsBehind ["DISTRIBUTE", "BY"]
  let sorting ← rules.expressionsBehind ["SORT", "BY"]
  let having ← optional "HAVING" rules.expression
  let windows ← rules.windowClauses
  let hierarchy ← rules.hierarchy
  return .spaced .select (.word "SELECT" :: distinct ++ top ++ items :: target ++ sources
    ++ views.flatten ++ filter ++ groups ++ cluster ++ distribution ++ sorting ++ having
    ++ windows ++ hierarchy)

end Rules

end TriplesSql.Select
