import TriplesSql.Select.JsonRows
import TriplesSql.Select.Pivot

namespace TriplesSql.Select

open Reader

def tryOrdinality : Reader (List Tree) := do
  if ← tryKeywords ["WITH", "ORDINALITY"] then return [.word "WITH ORDINALITY"] else return []

def tryPartitions : Reader (List Tree) := do
  if ← inDialects [.mysql] then
    if ← tryKeyword "PARTITION" then return [.spaced .clause [.word "PARTITION", ← nameList]]
  return []

namespace Rules

variable (rules : Rules)

def tryHints : Reader (List Tree) := do
  match ← get with
  | t :: .symbol "(" :: _ =>
    if keyOf (some t) = "WITH" then
      skip
      let hints ← inParens (separated rules.expression)
      return [.word "WITH", .parenthesizedList hints]
    else return []
  | _ => return []

def tryVersion : Reader (List Tree) := do
  if ← inDialects [.tsql] then
    if ← tryKeywords ["FOR", "SYSTEM_TIME", "AS", "OF"] then
      return [.word "FOR SYSTEM_TIME AS OF", ← rules.expression]
  return []

def table : Reader Tree := do
  let n ← qualifiedName
  let partitions ← tryPartitions
  let version ← rules.tryVersion
  let arguments ← if ← trySymbol "(" then pure [← rules.plainArguments] else pure []
  let ordinality ← tryOrdinality
  let label ← tryTableAlias
  let hints ← rules.tryHints
  let source : Tree := .tight .call (n :: partitions ++ arguments)
  let named : Tree := .aliased (.spaced .table (source :: ordinality)) label
  rules.withTurns (.spaced .table (named :: hints ++ version))

def unnested : Reader Tree := do
  let arrays ← inParens rules.expressions
  let ordinality ← tryOrdinality
  let source : Tree := .spaced .table (.keywordCall "UNNEST" [arrays] :: ordinality)
  let named ← withTableAlias source
  if ← tryKeyword "WITH" then
    if ← tryKeyword "OFFSET" then
      let place := Tree.aliased (.word "WITH OFFSET") (← tryAlias columnAliasStops)
      return .spaced .table [named, place]
  return named

def nestedQuery : Reader Tree := do
  let q ← rules.query
  symbol ")"
  withTableAlias (.parenthesized .subquery q)

/-- A join between parentheses behind the opening one, with its alias. A single source may not stand
there unless it is such a join itself. -/
def nestedJoin : Reader Tree := do
  let t ← rules.source
  if t.phrase = .join ∨ t.phrase = .nestedJoin then
    symbol ")"
    let label ← tryTableAlias
    return .tight .nestedJoin [.aliased (.parenthesized .nestedJoin t) label]
  else mismatch

def lateral : Reader Tree := do
  let source ← if ← trySymbol "(" then rules.nestedQuery
    else
      let n ← qualifiedName
      symbol "("
      withTableAlias (.tight .call [n, ← rules.plainArguments])
  return .spaced .table [.word "LATERAL", source]

/-- A single row source. Behind a parenthesis a nested query is tried before a join. -/
def singleSource : Reader Tree := do
  if ← tryKeyword "LATERAL" then rules.lateral
  else if ← tryKeyword "TABLE" then
    withTableAlias (.keywordCall "TABLE" [← inParens rules.expression])
  else if ← trySymbol "(" then
    match ← attempt rules.nestedQuery with
    | some t => rules.withTurns t
    | none => rules.nestedJoin
  else
    let key ← peekKey
    let called := (← get)[1]? = some (.symbol "(")
    if key = "UNNEST" && (← inDialects [.postgres]) then
      skip
      rules.unnested
    else if key = "JSON_TABLE" && called then
      modify (List.drop 2)
      rules.jsonTable
    else if key = "OPENJSON" && called then
      skip
      rules.openedJson
    else rules.table

def joinConstraint : Reader (List Tree) := do
  if ← tryKeyword "ON" then return [.word "ON", ← rules.expression]
  else if ← tryKeyword "USING" then return [.tight .clause [.word "USING", ← nameList]]
  else return []

def joinWords : Reader (Option String) := do
  match ← tryOneOf ["INNER", "JOIN", "SEMI", "ANTI", "FULL", "LEFT", "RIGHT"] with
  | none => return none
  | some "JOIN" => return some "JOIN"
  | some "INNER" =>
    keyword "JOIN"
    return some "JOIN"
  | some "SEMI" =>
    keyword "JOIN"
    return some "SEMI JOIN"
  | some "ANTI" =>
    keyword "JOIN"
    return some "ANTI JOIN"
  | some side =>
    let kinds := if side = "FULL" then ["OUTER"] else ["OUTER", "SEMI", "ANTI"]
    let kind ← tryOneOf kinds
    keyword "JOIN"
    match kind with
    | some "SEMI" => return some (side ++ " SEMI JOIN")
    | some "ANTI" => return some (side ++ " ANTI JOIN")
    | _ => return some (side ++ " JOIN")

def tryJoin : Reader (Option (List Tree)) := do
  let spread := if ← tryKeyword "GLOBAL" then [Tree.word "GLOBAL"] else []
  match ← tryOneOf ["CROSS", "OUTER", "ASOF"] with
  | some "CROSS" =>
    let kind ← oneOf ["JOIN", "APPLY"]
    return some (spread ++ [.word ("CROSS " ++ kind), ← rules.singleSource])
  | some "OUTER" =>
    keyword "APPLY"
    return some (spread ++ [.word "OUTER APPLY", ← rules.singleSource])
  | some _ =>
    keyword "JOIN"
    let source ← rules.singleSource
    keyword "MATCH_CONDITION"
    let condition ← inParens rules.expression
    return some (spread ++ .word "ASOF JOIN" :: source :: .word "MATCH_CONDITION"
      :: .parenthesized .group condition :: (← rules.joinConstraint))
  | none =>
    let natural ← tryKeyword "NATURAL"
    match ← joinWords with
    | none => if natural then mismatch else return none
    | some words =>
      let source ← rules.singleSource
      let constraint ← if natural then pure [] else rules.joinConstraint
      let front := if natural then "NATURAL " ++ words else words
      return some (spread ++ .word front :: source :: constraint)

def sourceRule : Reader Tree := do
  let first ← rules.singleSource
  match ← many rules.tryJoin with
  | [] => return first
  | joins => return .spaced .join (first :: joins.flatten)

def sources : Reader Tree := do return .listed (← separated rules.source)

end Rules

end TriplesSql.Select
