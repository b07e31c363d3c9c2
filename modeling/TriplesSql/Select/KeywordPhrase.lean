import TriplesSql.Select.Binding
import TriplesSql.Select.Call

namespace TriplesSql.Select

open Reader

def trySearchMode : Reader (List Tree) := do
  if ← tryKeywords ["IN", "NATURAL", "LANGUAGE", "MODE"] then
    if ← tryKeywords ["WITH", "QUERY", "EXPANSION"] then
      return [.word "IN NATURAL LANGUAGE MODE WITH QUERY EXPANSION"]
    else return [.word "IN NATURAL LANGUAGE MODE"]
  else if ← tryKeywords ["IN", "BOOLEAN", "MODE"] then return [.word "IN BOOLEAN MODE"]
  else if ← tryKeywords ["WITH", "QUERY", "EXPANSION"] then return [.word "WITH QUERY EXPANSION"]
  else return []

def textSearch : Reader Tree := do
  let columns ← nameList
  keyword "AGAINST"
  let pattern ← inParens do return .spaced .clause ((← value) :: (← trySearchMode))
  return .spaced .call
    [.word "MATCH", columns, .word "AGAINST", .parenthesized .clause pattern]

namespace Rules

variable (rules : Rules)

def branch : Reader (List Tree) := do
  let condition ← rules.expression
  keyword "THEN"
  return [.word "WHEN", condition, .word "THEN", ← rules.expression]

def choice : Reader Tree := do
  let subject ← if ← tryKeyword "WHEN" then pure [] else do
    let e ← rules.expression
    keyword "WHEN"
    pure [e]
  let first ← rules.branch
  let others ← many (behind "WHEN" rules.branch)
  let otherwise ← optional "ELSE" rules.expression
  keyword "END"
  return .spaced .choice
    (.word "CASE" :: subject ++ first ++ others.flatten ++ otherwise ++ [.word "END"])

def cast (key : String) : Reader Tree := inParens do
  let e ← rules.expression
  keyword "AS"
  let type ← SqlType.tree
  let format ← optional "FORMAT" value
  let zone ← if ← pure !format.isEmpty <&&> tryKeywords ["AT", "TIME", "ZONE"] then
      pure [.word "AT TIME ZONE", ← value]
    else pure []
  return .keywordCall key (e :: .word "AS" :: type :: format ++ zone)

def conversionByType (key : String) : Reader Tree := do
  let type ← SqlType.tree
  symbol ","
  let e ← rules.expression
  let styles ← if ← trySymbol "," then separated rules.expression else pure []
  return .keywordCall key [.listed (type :: e :: styles)]

def conversionByValue (key : String) : Reader Tree := do
  let e ← rules.expression
  if ← tryKeyword "USING" then
    return .keywordCall key [e, .word "USING", ← qualifiedName]
  else
    symbol ","
    let type ← SqlType.tree
    let charset ← if ← tryKeywords ["CHARACTER", "SET"] then
        pure [.word "CHARACTER SET", ← qualifiedName]
      else pure []
    return .keywordCall key [.listed [e, .spaced .clause (type :: charset)]]

def conversion (key : String) : Reader Tree := inParens do
  if ← inDialects [.tsql] then rules.conversionByType key else rules.conversionByValue key

/-- A part of a text. Its place stands behind keywords or behind commas. -/
def substring : Reader Tree := inParens do
  let e ← rules.expression
  let comma ← trySymbol ","
  let hasStart ← if comma then pure true else tryKeyword "FROM"
  let start ← if hasStart then pure [← rules.expression] else pure []
  let hasLength ← if ← tryKeyword "FOR" then pure true else trySymbol ","
  let length ← if hasLength then pure [← rules.expression] else pure []
  if comma then return .keywordCall "SUBSTRING" [.listed (e :: start ++ length)]
  else
    let behindKey (key : String) (ts : List Tree) := ts.flatMap fun t => [.word key, t]
    return .keywordCall "SUBSTRING" (e :: behindKey "FROM" start ++ behindKey "FOR" length)

def overlay : Reader Tree := inParens do
  let e ← rules.expression
  keyword "PLACING"
  let part ← rules.expression
  keyword "FROM"
  let start ← rules.expression
  let length ← optional "FOR" rules.expression
  return .keywordCall "OVERLAY" ([e, .word "PLACING", part, .word "FROM", start] ++ length)

def trimmed : Reader Tree := inParens do
  let side := (← tryOneOf ["BOTH", "LEADING", "TRAILING"]).toList.map .word
  let e ← rules.expression
  if ← tryKeyword "FROM" then
    return .keywordCall "TRIM" (side ++ [e, .word "FROM", ← rules.expression])
  else
    let _ ← trySymbol ","
    return .keywordCall "TRIM" (side ++ [e])

def position : Reader Tree := inParens do
  let e ← rules.above (Binding.between.level (← read).dialect)
  keyword "IN"
  return .keywordCall "POSITION" [e, .word "IN", ← rules.expression]

def rounded (key : String) : Reader Tree := inParens do
  let e ← rules.expression
  if ← tryKeyword "TO" then return .keywordCall key [e, .word "TO", .word (← dateField)]
  else if ← trySymbol "," then return .keywordCall key [.listed [e, ← number]]
  else return .keywordCall key [e]

def extract : Reader Tree := inParens do
  let field ← dateField
  keyword "FROM"
  return .keywordCall "EXTRACT" [.word field, .word "FROM", ← rules.expression]

def currentTime (n : Name) : Reader Tree := do
  if ← trySymbol "(" then return .tight .call [n.tree, ← rules.arguments]
  else return .leaf .call n.spelling

def rowsExist : Reader Tree := do
  return .spaced .operation [.word "EXISTS", .parenthesized .subquery (← inParens rules.query)]

def negation : Reader Tree := do
  if ← tryKeyword "EXISTS" then return .spaced .operation [.word "NOT", ← rules.rowsExist]
  else
    let condition ← rules.above (Binding.not.level (← read).dialect)
    return .spaced .operation [.word "NOT", condition]

def items : Reader Tree := do
  let es ← separatedUnless "]" rules.expression
  symbol "]"
  return .tight .group [.sign "[", .listed es, .sign "]"]

def pair (key : Reader Tree) : Reader Tree := do
  let k ← key
  symbol ":"
  return .tight .clause [k, .sign ": ", ← rules.expression]

def braced (pairs : Reader (List Tree)) : Reader Tree := do
  let ps ← pairs
  symbol "\x7d"
  return .tight .group [.sign "\x7b", .listed ps, .sign "\x7d"]

def record : Reader Tree := braced (separated (rules.pair nameTree))

def entries : Reader Tree := braced (separatedUnless "\x7d" (rules.pair rules.expression))

def announced (n : Name) (key : String) : Reader (Option Tree) := do
  let withSymbol (s : String) (p : Reader Tree) : Reader (Option Tree) := do
    if ← trySymbol s then return some (← p) else return none
  let inOnly (ds : List Dialect) (p : Reader (Option Tree)) : Reader (Option Tree) := do
    if ← inDialects ds then p else return none
  match key with
  | "TRUE" => inOnly [.postgres, .mysql, .duckdb] (return some (.leaf .literal "true"))
  | "FALSE" => inOnly [.postgres, .mysql, .duckdb] (return some (.leaf .literal "false"))
  | "NULL" => return some (.leaf .literal "NULL")
  | "CURRENT_CATALOG" | "CURRENT_USER" | "SESSION_USER" | "USER" =>
    inOnly [.postgres] (return some (.leaf .call n.spelling))
  | "CURRENT_TIMESTAMP" | "CURRENT_TIME" | "CURRENT_DATE" | "LOCALTIME" | "LOCALTIMESTAMP" =>
    return some (← rules.currentTime n)
  | "CASE" => return some (← rules.choice)
  | "CONVERT" => return some (← rules.conversion key)
  | "TRY_CONVERT" => inOnly [.tsql] do return some (← rules.conversion key)
  | "CAST" | "TRY_CAST" | "SAFE_CAST" => return some (← rules.cast key)
  | "EXISTS" => return some (← rules.rowsExist)
  | "EXTRACT" => return some (← rules.extract)
  | "CEIL" | "FLOOR" => return some (← rules.rounded key)
  | "POSITION" =>
    if ← atSymbol "(" then
      match ← attempt rules.position with
      | some t => return some t
      | none => return some (← rules.call n.tree)
    else return none
  | "SUBSTRING" => return some (← rules.substring)
  | "OVERLAY" => return some (← rules.overlay)
  | "TRIM" => return some (← rules.trimmed)
  | "INTERVAL" => return some (← rules.interval)
  | "ARRAY" =>
    if ← trySymbol "[" then return some (.tight .group [.word key, ← rules.items])
    else if ← atSymbol "(" then
      return some (.tight .call [n.tree, .parenthesized .subquery (← inParens rules.query)])
    else return none
  | "NOT" => return some (← rules.negation)
  | "MATCH" => inOnly [.mysql] do return some (← textSearch)
  | "PRIOR" =>
    if (← read).inHierarchy then
      let e ← rules.above (Binding.plus.level (← read).dialect)
      return some (.spaced .operation [.word key, e])
    else return none
  | "MAP" =>
    inOnly [.duckdb] <| withSymbol "\x7b" do
      return .spaced .group [.word key, ← rules.entries]
  | _ => return none

def neverNames : List String := ["EXISTS", "INTERVAL", "STRUCT", "TRIM"]

end Rules

end TriplesSql.Select
