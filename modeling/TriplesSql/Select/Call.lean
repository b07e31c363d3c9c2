import TriplesSql.Select.Rules

namespace TriplesSql.Select

open Reader

def tryDigits : Reader (List Tree) := do
  if ← atSymbol "(" then return [.parenthesized .group (← inParens countTree)] else return []

def tryFractionDigits : Reader (List Tree) := do
  if ← atSymbol "(" then
    let digits ← inParens do
      let whole ← countTree
      if ← trySymbol "," then return [whole, ← countTree] else return [whole]
    return [.parenthesizedList digits]
  else return []

def tryLastField : Reader (List Tree) := do
  if ← tryKeyword "TO" then
    let field ← dateField
    let digits ← if field = "SECOND" then tryDigits else pure []
    return .word "TO" :: .word field :: digits
  else return []

def Rules.interval (rules : Rules) : Reader Tree := do
  let unitNeeded ← inDialects [.mysql]
  let quantity ← if unitNeeded then rules.expression else rules.operand
  let unit ← if temporalUnits.contains (← peekKey) then some <$> dateField
    else if unitNeeded then mismatch
    else pure none
  let digits ← if unit = some "SECOND" then tryFractionDigits
    else pure ((← tryDigits) ++ (← tryLastField))
  return .spaced .literal (.word "INTERVAL" :: quantity :: unit.toList.map .word ++ digits)

def part? : Lexeme → Option Tree
  | .word n _ => some n.tree
  | .string .plain s => some (Name.tree ⟨s, some '\''⟩)
  | _ => none

def star : Tree := .leaf .wildcard "*"

/-- Parts with points in front of them up to a star, and what follows it; nothing if there is no
star. Behind a point there has to be a part or the star. -/
def partsToStar : List Lexeme → Except Failure (Option (List Tree × List Lexeme))
  | .symbol "." :: .symbol "*" :: rest => .ok (some ([star], rest))
  | .symbol "." :: t :: rest =>
    match part? t with
    | some n =>
      (partsToStar rest).map fun found => found.map fun (parts, rest) => (n :: parts, rest)
    | none => .error .mismatch
  | [.symbol "."] => .error .mismatch
  | _ => .ok none

def tryStar : Reader (Option Tree) := fun _ ts =>
  match ts with
  | .symbol "*" :: rest => .ok (some star, rest)
  | t :: rest =>
    match part? t with
    | none => .ok (none, ts)
    | some n =>
      match partsToStar rest with
      | .ok (some (parts, rest)) => .ok (some (.node .wildcard "." (n :: parts)), rest)
      | .ok none => .ok (none, ts)
      | .error failure => .error failure
  | [] => .ok (none, ts)

def argumentSign : Reader String := do
  if ← tryKeyword "VALUE" then return "VALUE"
  match ← next with
  | .symbol s =>
    let dialects : List Dialect := match s with
      | "=>" => [.postgres, .mysql, .duckdb]
      | "=" | ":=" => [.duckdb]
      | ":" => [.postgres, .tsql]
      | _ => []
    if ← inDialects dialects then return s else mismatch
  | _ => mismatch

def tryMissing : Reader (List Tree) := do
  if ← tryKeywords ["ABSENT", "ON", "NULL"] then return [.word "ABSENT ON NULL"]
  else if ← tryKeywords ["NULL", "ON", "NULL"] then return [.word "NULL ON NULL"]
  else return []

def tryNullTreatment : Reader (List Tree) := do
  match ← tryOneOf ["RESPECT", "IGNORE"] with
  | some key =>
    keyword "NULLS"
    return [.word (key ++ " NULLS")]
  | none => return []

def atFiller : Reader Bool := do
  match ← peek with
  | some (.string kind _) =>
    return [StringKind.plain, .escaped, .unicode, .national, .hex].contains kind
  | _ => return false

namespace Rules

variable (rules : Rules)

def starOrExpression : Reader Tree := do
  match ← tryStar with
  | some t => return t
  | none => rules.expression

def namedArgument (n : Tree) : Reader Tree := do
  let s ← argumentSign
  return .spaced .operation [n, .sign s, ← rules.starOrExpression]

/-- An argument of a call. In some dialects any expression can be its name. -/
def argument : Reader Tree := do
  if ← inDialects [.postgres, .tsql] then
    let start ← get
    match ← attempt rules.expression with
    | none =>
      match ← tryStar with
      | some t => return t
      | none => mismatch
    | some e =>
      match ← attempt (rules.namedArgument e) with
      | some t => return t
      | none =>
        let rest ← get
        set start
        match ← tryStar with
        | some t => return t
        | none =>
          set rest
          return e
  else
    match ← attempt (do rules.namedArgument (← nameTree)) with
    | some t => return t
    | none => rules.starOrExpression

def overflow : Reader (List Tree) := do
  if ← tryKeywords ["ON", "OVERFLOW"] then
    if ← tryKeyword "ERROR" then return [.word "ON OVERFLOW ERROR"]
    keyword "TRUNCATE"
    let filler ← if ← atFiller then pure [← rules.expression] else pure []
    let counted ← oneOf ["WITH", "WITHOUT"]
    keyword "COUNT"
    return .word "ON OVERFLOW TRUNCATE" :: filler ++ [.word counted, .word "COUNT"]
  else return []

def arguments : Reader Tree := do
  let first ← tryMissing
  if ← trySymbol ")" then return .parenthesized .clause (.spaced .clause first)
  let all ← tryKeyword "ALL"
  let distinct ← tryKeyword "DISTINCT"
  if all && distinct then mismatch
  let items ← separated rules.argument
  let order ← rules.order
  let limit ← optional "LIMIT" rules.expression
  let separator ← if ← inDialects [.mysql] then optional "SEPARATOR" value else pure []
  let overflow ← rules.overflow
  let last ← tryMissing
  symbol ")"
  let treatment := if all then [Tree.word "ALL"] else if distinct then [.word "DISTINCT"] else []
  return .parenthesized .clause (.spaced .clause
    (treatment ++ .listed items :: first ++ order ++ limit ++ separator ++ overflow ++ last))

def plainArguments : Reader Tree := do
  if ← trySymbol ")" then return .parenthesizedList []
  let items ← separated rules.argument
  symbol ")"
  return .parenthesizedList items

def frameBound : Reader Tree := do
  if ← tryKeywords ["CURRENT", "ROW"] then return .word "CURRENT ROW"
  let distance ← if ← tryKeyword "UNBOUNDED" then pure (.word "UNBOUNDED") else
    match ← peek with
    | some (.string .plain _) => rules.interval
    | _ => rules.expression
  return .spaced .clause [distance, .word (← oneOf ["PRECEDING", "FOLLOWING"])]

def frame : Reader (List Tree) := do
  let unit ← oneOf ["ROWS", "RANGE", "GROUPS"]
  if ← tryKeyword "BETWEEN" then
    let first ← rules.frameBound
    keyword "AND"
    return [.word unit, .word "BETWEEN", first, .word "AND", ← rules.frameBound]
  else return [.word unit, ← rules.frameBound]

def window : Reader Tree := do
  let base ← match ← peek with
    | some (.word n key) =>
      if isKeyword key then pure [] else do
        skip
        pure [n.tree]
    | _ => pure []
  let partition ← rules.expressionsBehind ["PARTITION", "BY"]
  let order ← rules.order
  let frame ← if ← atSymbol ")" then pure [] else rules.frame
  symbol ")"
  return .parenthesized .clause (.spaced .clause (base ++ partition ++ order ++ frame))

def callWindow : Reader (List Tree) := do
  if ← tryKeyword "OVER" then
    if ← trySymbol "(" then return [.word "OVER", ← rules.window]
    else return [.word "OVER", ← nameTree]
  else return []

def collected : Reader (List Tree) := do
  if ← tryKeywords ["WITHIN", "GROUP"] then
    let keys ← inParens do
      keywords ["ORDER", "BY"]
      rules.sortKeys
    return [.keywordCall "WITHIN GROUP " [.word "ORDER BY", keys]]
  else return []

/-- The condition on the rows that a call sees, if there is one. The words in front of it may stand
there without it. -/
def callFilter : Reader (List Tree) := do
  if ← inDialects [.postgres, .duckdb] then
    if ← tryKeyword "FILTER" then
      if ← trySymbol "(" then
        if ← tryKeyword "WHERE" then
          let condition ← rules.expression
          symbol ")"
          return [.keywordCall "FILTER " [.word "WHERE", condition]]
  return []

def call (function : Tree) : Reader Tree := do
  symbol "("
  let arguments ← rules.arguments
  let collected ← rules.collected
  let filter ← rules.callFilter
  let nulls ← tryNullTreatment
  let window ← rules.callWindow
  let whole : Tree := .tight .call [function, arguments]
  return .spaced .call (whole :: collected ++ filter ++ nulls ++ window)

end Rules

end TriplesSql.Select
