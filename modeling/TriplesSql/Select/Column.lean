import TriplesSql.Select.Operand

namespace TriplesSql.Select

open Reader

def ifExists : Reader Bool := tryKeywords ["IF", "EXISTS"]

def ifNotExists : Reader Bool := tryKeywords ["IF", "NOT", "EXISTS"]

def constraintTimes : Reader Unit := do
  let deferrable : Reader Bool := tryRuns [["NOT", "DEFERRABLE"], ["DEFERRABLE"]]
  let initially : Reader Bool := do
    if ← tryKeyword "INITIALLY" then
      let _ ← oneOf ["DEFERRED", "IMMEDIATE"]
      return true
    else return false
  let enforced : Reader Bool := tryRuns [["ENFORCED"], ["NOT", "ENFORCED"]]
  let rec go : List (Reader Bool) → Nat → Reader Unit
    | _, 0 => return ()
    | ps, fuel + 1 => do
      let found ← ps.mapM fun p => do return (p, ← p)
      let left := (found.filter fun f => !f.2).map (·.1)
      if left.length = ps.length then return () else go left fuel
  go [deferrable, initially, enforced] 3

def reaction : Reader Unit :=
  oneOfRuns [["RESTRICT"], ["CASCADE"], ["SET", "NULL"], ["NO", "ACTION"], ["SET", "DEFAULT"]]

def reactions : Reader Unit := do
  if ← tryKeywords ["ON", "DELETE"] then
    reaction
    behindRuns [["ON", "UPDATE"]] reaction
  else if ← tryKeywords ["ON", "UPDATE"] then
    reaction
    behindRuns [["ON", "DELETE"]] reaction

def indexKind : Reader Unit := behindRuns [["USING"]] do discard (oneOf ["BTREE", "HASH"])

def indexedColumns : Reader Unit := do
  let _ ← attempt name
  indexKind
  let _ ← nameList
  let _ ← many do
    if ← atKeywords ["USING"] then return some (← indexKind)
    else if ← tryKeyword "COMMENT" then
      let _ ← literalText
      return some ()
    else return none
  constraintTimes

def nullsDistinct : Reader Unit := behindRuns [["NULLS"]] do
  let _ ← tryKeyword "NOT"
  keyword "DISTINCT"

def sequenceOptions : Reader Unit := do
  behindRuns [["INCREMENT", "BY"], ["INCREMENT"]] (discard signedNumber)
  if ← tryKeyword "MINVALUE" then discard signedNumber
  else discard (tryKeywords ["NO", "MINVALUE"])
  if ← tryKeyword "MAXVALUE" then discard signedNumber
  else discard (tryKeywords ["NO", "MAXVALUE"])
  behindRuns [["START", "WITH"], ["START"]] (discard signedNumber)
  behindRuns [["CACHE"]] (discard signedNumber)
  discard (tryRuns [["NO", "CYCLE"], ["CYCLE"]])

namespace Rules

variable (rules : Rules)

def check : Reader Unit := discard (inParens rules.expression)

def expressionList : Reader Unit := discard (inParens rules.expressions)

def generated : Reader Bool := do
  if ← tryRuns [["ALWAYS", "AS", "IDENTITY"], ["BY", "DEFAULT", "AS", "IDENTITY"]] then
    if ← atSymbol "(" then inParens sequenceOptions
    return true
  else if ← tryKeywords ["ALWAYS", "AS"] then
    if ← atSymbol "(" then
      rules.check
      if ← inDialects [.postgres] then keyword "STORED"
      else discard (tryOneOf ["STORED", "VIRTUAL"])
      return true
    else return false
  else return false

/-- A property that only some dialects have. In the others its keywords are taken too, but they give
no property, so that none may follow them. -/
def dialectProperty : Reader Bool := do
  if ← tryKeyword "AUTO_INCREMENT" <&&> inDialects [.mysql] then return true
  let _ ← tryKeyword "AUTOINCREMENT"
  let _ ← tryKeyword "ASC"
  let _ ← tryKeyword "DESC"
  if ← tryKeywords ["ON", "UPDATE"] <&&> inDialects [.mysql] then
    let _ ← rules.expression
    return true
  if ← tryKeyword "GENERATED" then return ← rules.generated
  if ← tryKeyword "AS" <&&> inDialects [.mysql, .duckdb] then
    rules.check
    discard (tryOneOf ["STORED", "VIRTUAL"])
    return true
  if ← tryKeyword "IDENTITY" <&&> inDialects [.tsql] then
    if ← atSymbol "(" then
      inParens do
        let _ ← signedNumber
        symbol ","
        discard signedNumber
    return true
  return false

def columnProperty : Reader Bool := do
  if ← tryKeywords ["CHARACTER", "SET"] then
    let _ ← qualifiedName
    return true
  else if ← tryKeywords ["NOT", "NULL"] then return true
  else if ← tryKeyword "COMMENT" then
    match ← next with
    | .string .plain _ => return true
    | _ => mismatch
  else if ← tryKeyword "NULL" then return true
  else if ← tryKeyword "DEFAULT" then
    let _ ← rules.expression
    return true
  else if ← tryRuns [["PRIMARY", "KEY"], ["UNIQUE"]] then
    constraintTimes
    return true
  else if ← tryKeyword "REFERENCES" then
    let _ ← qualifiedName
    let _ ← tryNameList
    reactions
    constraintTimes
    return true
  else if ← tryKeyword "CHECK" then
    rules.check
    return true
  else rules.dialectProperty

def columnProperties : Reader Unit := do
  let _ ← many do
    if ← tryKeyword "CONSTRAINT" then
      let _ ← name
      if ← rules.columnProperty then return some () else mismatch
    else if ← rules.columnProperty then return some ()
    else if ← inDialects [.mysql] <&&> tryKeyword "COLLATE" then
      let _ ← qualifiedName
      return some ()
    else return none

def column : Reader Unit := do
  let _ ← name
  let _ ← SqlType.reader
  behindRuns [["COLLATE"]] (discard qualifiedName)
  rules.columnProperties

def constraint (isNamed : Bool) : Reader Bool := do
  let mysql ← inDialects [.mysql]
  if ← tryKeyword "UNIQUE" then
    if ← tryRuns [["KEY"], ["INDEX"]] <&&> pure !mysql then mismatch
    nullsDistinct
    indexedColumns
    return true
  else if ← tryKeyword "PRIMARY" then
    keyword "KEY"
    indexedColumns
    return true
  else if ← tryKeyword "FOREIGN" then
    keyword "KEY"
    let _ ← nameList
    keyword "REFERENCES"
    let _ ← qualifiedName
    let _ ← nameList
    reactions
    constraintTimes
    return true
  else if ← tryKeyword "CHECK" then
    rules.check
    return true
  else if ← pure (mysql && !isNamed) <&&> tryRuns [["INDEX"], ["KEY"]] then
    if !(← atKeywords ["USING"]) then discard (attempt name)
    indexKind
    discard nameList
    return true
  else if ← pure mysql <&&> tryRuns [["FULLTEXT"], ["SPATIAL"]] then
    if isNamed then mismatch
    let _ ← tryOneOf ["KEY", "INDEX"]
    let _ ← attempt name
    discard nameList
    return true
  else return false

def tryConstraint : Reader Bool := do
  if ← tryKeyword "CONSTRAINT" then
    let _ ← name
    if ← rules.constraint true then return true else mismatch
  else rules.constraint false

def tableElement : Reader Unit := do
  if !(← rules.tryConstraint) then
    match ← peek with
    | some (.word _ _) => rules.column
    | _ => mismatch

/-- The columns and constraints of a table between parentheses, if they are given. One dialect
allows a comma behind the last one. -/
def tableElements : Reader Unit := do
  if ← trySymbol "(" then
    if !(← trySymbol ")") then
      rules.tableElement
      let _ ← many do
        if ← atSymbol "," then
          if (← inDialects [.duckdb]) && (← get)[1]? = some (.symbol ")") then
            skip
            return none
          else
            skip
            return some (← rules.tableElement)
        else return none
      symbol ")"

def storageOption : Reader Bool := do
  if ← tryKeyword "HEAP" then return true
  else if ← tryKeyword "PARTITION" then
    inParens do
      let _ ← name
      keyword "RANGE"
      let _ ← tryOneOf ["LEFT", "RIGHT"]
      keywords ["FOR", "VALUES"]
      rules.expressionList
    return true
  else if ← tryKeywords ["CLUSTERED", "COLUMNSTORE", "INDEX", "ORDER"] then
    discard nameList
    return true
  else if ← tryKeywords ["CLUSTERED", "COLUMNSTORE", "INDEX"] then return true
  else if ← tryKeywords ["CLUSTERED", "INDEX"] then
    let _ ← inParens (separated do
      let _ ← name
      tryOneOf ["ASC", "DESC"])
    return true
  else if ← atKeywords ["CLUSTERED"] then mismatch
  else return false

def namedValue : Reader Unit := do
  let special ← if ← inDialects [.tsql] then rules.storageOption else pure false
  if !special then
    let _ ← name
    symbol "="
    discard rules.expression

def options (keys : List String) : Reader Bool := do
  if ← tryKeywords keys then
    let _ ← inParens (separated rules.namedValue)
    return true
  else return false

end Rules

end TriplesSql.Select
