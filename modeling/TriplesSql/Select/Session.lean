import TriplesSql.Select.Change

namespace TriplesSql.Select

open Reader

def transactionEnd : Reader Unit := do
  let _ ← tryOneOf ["TRANSACTION", "WORK"]
  if ← tryKeyword "AND" then
    let _ ← tryKeyword "NO"
    keyword "CHAIN"

def transactionMode : Reader Bool := do
  if ← tryKeywords ["ISOLATION", "LEVEL"] then
    oneOfRuns [["READ", "UNCOMMITTED"], ["READ", "COMMITTED"], ["REPEATABLE", "READ"],
      ["SERIALIZABLE"]]
    return true
  else tryRuns [["READ", "ONLY"], ["READ", "WRITE"]]

def transactionModes : Nat → Bool → Reader Unit
  | 0, _ => return ()
  | fuel + 1, needed => do
    if ← transactionMode then transactionModes fuel (← trySymbol ",")
    else if needed then mismatch

def transactionStart : Reader Unit := do
  let _ ← tryOneOf ["TRANSACTION", "WORK"]
  transactionModes (← bound) false

def rollback : Reader Unit := do
  transactionEnd
  behindRuns [["TO", "SAVEPOINT"], ["TO"]] (discard name)

def fetchedRows : Reader Unit := do
  match ← tryOneOf ["NEXT", "PRIOR", "FIRST", "LAST", "ABSOLUTE", "RELATIVE", "FORWARD", "BACKWARD",
      "ALL"] with
  | some "ABSOLUTE" | some "RELATIVE" => discard unsignedNumber
  | some "FORWARD" | some "BACKWARD" => if !(← tryKeyword "ALL") then discard unsignedNumber
  | some _ => pure ()
  | none => discard unsignedNumber
  let _ ← oneOf ["FROM", "IN"]
  let _ ← name
  behindRuns [["INTO"]] (discard qualifiedName)

/-- The names behind a keyword for a variable: every lexeme up to an equals sign or the end of the
text. -/
def shownVariable : Reader Unit :=
  modify fun ts => ts.dropWhile fun t => t != .symbol "="

def tryWords (keys : List String) : Reader Bool := do
  return !(← tryEach keys).isEmpty

def flush : Reader Unit := do
  if !(← inDialects [.mysql]) then mismatch
  let _ ← tryOneOf ["NO_WRITE_TO_BINLOG", "LOCAL"]
  if ← tryKeywords ["RELAY", "LOGS"] then
    behindRuns [["FOR", "CHANNEL"]] (discard qualifiedName)
  else if ← tryKeyword "TABLES" then tables (← bound)
  else oneOfRuns [["BINARY", "LOGS"], ["ENGINE", "LOGS"], ["ERROR", "LOGS"], ["GENERAL", "LOGS"],
    ["HOSTS"], ["PRIVILEGES"], ["OPTIMIZER_COSTS"], ["SLOW", "LOGS"], ["STATUS"],
    ["USER_RESOURCES"], ["LOGS"]]
where
  tables : Nat → Reader Unit
    | 0 => return ()
    | fuel + 1 => do
      match ← peek with
      | some (.word _ key) =>
        if isKeyword key then
          skip
          if key = "WITH" then discard (tryKeywords ["READ", "LOCK"])
          else if key = "FOR" then discard (tryKeyword "EXPORT")
        else discard (separated qualifiedName)
        tables fuel
      | _ => skip

def kill : Reader Unit := do
  let _ ← tryOneOf ["CONNECTION", "QUERY"]
  discard count

def settingValue : Reader Unit := do
  match ← peek with
  | some (.string .plain _) | some (.string .doubleQuoted _) | some (.number _ _)
  | some (.placeholder _) | some (.symbol _) => discard value
  | some (.word n _) => if n.quote = some '"' then discard value else mismatch
  | _ => mismatch

def pragma : Reader Unit := do
  let _ ← qualifiedName
  if ← atSymbol "(" then inParens settingValue
  else if ← trySymbol "=" then settingValue

def commentOn : Reader Unit := do
  let _ ← tryKeywords ["IF", "EXISTS"]
  keyword "ON"
  let _ ← oneOf ["COLUMN", "DATABASE", "EXTENSION", "ROLE", "SCHEMA", "TABLE", "USER"]
  let _ ← qualifiedName
  keyword "IS"
  if !(← tryKeyword "NULL") then discard literalText

def notification : Reader Unit := do
  let _ ← name
  if ← trySymbol "," then discard literalText

namespace Rules

variable (rules : Rules)

def shownFilter : Reader Unit := do
  if (← tryOneOf ["LIKE", "ILIKE"]).isSome then discard literalText
  else if ← tryKeyword "WHERE" then discard rules.expression
  else discard (attempt literalText)

/-- The place whose things are shown, if it is said. Behind its kind a lexeme that is no name may
stand in place of its name. -/
def shownPlace : Reader Unit := do
  if (← tryOneOf ["FROM", "IN"]).isSome then
    match ← tryOneOf ["ACCOUNT", "DATABASE", "SCHEMA", "TABLE", "VIEW"] with
    | some key =>
      let nameless := key = "DATABASE" || key = "SCHEMA"
      let ends := (← atKeywords ["STARTS", "WITH"]) || (← atKeywords ["LIMIT"])
      if !(nameless && ends) then skipQualifiedName
    | none =>
      let _ ← qualifiedName
      if (← tryOneOf ["FROM", "IN"]).isSome then discard name

def shownPart : Reader Unit := do
  shownPlace
  rules.shownFilter
  behindRuns [["STARTS", "WITH"]] (discard value)
  behindRuns [["LIMIT"]] do if !(← tryKeyword "ALL") then discard rules.expression
  behindRuns [["FROM"]] (discard value)

def shown : Reader Unit := do
  let _ ← tryKeyword "TERSE"
  let whole ← tryWords ["EXTENDED", "FULL"]
  let _ ← tryEach ["SESSION", "GLOBAL"]
  let external ← tryKeyword "EXTERNAL"
  if ← tryKeyword "TABLES" then
    if !external then discard (tryKeyword "HISTORY")
    rules.shownPart
  else if ← tryRuns [["COLUMNS"], ["FIELDS"], ["MATERIALIZED", "VIEWS"], ["VIEWS"]] then
    rules.shownPart
  else if ← tryKeyword "FUNCTIONS" then rules.shownFilter
  else if whole then mismatch
  else if ← tryKeyword "CREATE" then
    let _ ← oneOf ["TABLE", "TRIGGER", "FUNCTION", "PROCEDURE", "EVENT", "VIEW"]
    discard qualifiedName
  else if ← tryKeyword "COLLATION" then rules.shownFilter
  else if ← tryKeyword "VARIABLES" <&&> inDialects [.mysql] then rules.shownFilter
  else if ← tryKeyword "STATUS" <&&> inDialects [.mysql] then rules.shownFilter
  else if ← tryRuns [["DATABASES"], ["SCHEMAS"]] then
    let _ ← tryKeyword "HISTORY"
    rules.shownPart
  else shownVariable

def variableValues : Reader Unit := do
  let value : Reader Unit := do if ← atQuery then discard rules.query else discard rules.expression
  value
  discard (many do if ← trySymbol "," then return some (← value) else return none)

def characterSet : Reader Unit := do
  if !(← tryKeyword "DEFAULT") then
    let _ ← literalText
    behindRuns [["COLLATE"]] (discard literalText)

def variableSetting (modifier : Option String) : Reader Unit := do
  let n ← if ← tryKeywords ["TIME", "ZONE"] then pure "TIMEZONE" else pure (← qualifiedName).text
  let upper := String.ofList (n.toList.map Char.toUpper)
  if upper = "NAMES" && (← inDialects [.mysql]) then characterSet
  else if ← trySymbol "=" <||> tryKeyword "TO" then rules.variableValues
  else if upper = "TIMEZONE" then discard rules.expression
  else if n = "CHARACTERISTICS" then
    keywords ["AS", "TRANSACTION"]
    transactionModes (← bound) false
  else if n = "TRANSACTION" && modifier.isNone then
    if ← tryKeyword "SNAPSHOT" then discard value
    else transactionModes (← bound) false
  else mismatch

def setting : Reader Unit := do
  let modifier ← tryOneOf ["SESSION", "LOCAL", "HIVEVAR"]
  if modifier = some "HIVEVAR" then symbol ":"
  let role ← if modifier = some "HIVEVAR" then pure none else attempt do
    keyword "ROLE"
    discard name
  if role.isNone then rules.variableSetting modifier

def declaredVariable : Reader Unit := do
  if !((← name).text.startsWith "@") then mismatch
  if !(← tryKeyword "CURSOR") then
    let _ ← tryKeyword "AS"
    discard SqlType.reader
  if ← trySymbol "=" then discard rules.expression

def declaredCursor : Reader Unit := do
  let _ ← name
  let _ ← tryKeyword "BINARY"
  let _ ← tryOneOf ["INSENSITIVE", "ASENSITIVE"]
  let _ ← tryRuns [["SCROLL"], ["NO", "SCROLL"]]
  keyword "CURSOR"
  if (← tryOneOf ["WITH", "WITHOUT"]).isSome then keyword "HOLD"
  keyword "FOR"
  discard rules.query

def declaration : Reader Unit := do
  if ← inDialects [.tsql] then discard (separated rules.declaredVariable)
  else rules.declaredCursor

def execution : Reader Unit := do
  let _ ← qualifiedName
  if ← trySymbol "(" then
    let _ ← separatedUnless ")" rules.expression
    symbol ")"
  else if !(← get).isEmpty && !(← atKeywords ["USING"]) then
    discard (separatedUnless ";" rules.expression)
  if ← tryKeyword "USING" then
    let _ ← rules.expression
    discard (many do
      if ← trySymbol "," then return some (← discard rules.expression) else return none)

def preparation : Reader Unit := do
  let _ ← name
  if ← atSymbol "(" then discard (inParens (separated SqlType.reader))
  keyword "AS"
  discard rules.statement

def procedureCall : Reader Unit := do
  let n ← qualifiedName
  if ← atSymbol "(" then discard (rules.call n)

def assertion : Reader Unit := do
  let _ ← rules.expression
  if ← tryKeyword "AS" then discard rules.expression

def analyzedPart : Reader (Option Unit) := do
  match ← tryOneOf ["PARTITION", "FOR", "CACHE", "NOSCAN", "COMPUTE"] with
  | some "PARTITION" => return some (← discard (inParens rules.expressions))
  | some "FOR" =>
    keyword "COLUMNS"
    return some (← discard (attempt (separated name)))
  | some "CACHE" => return some (← keyword "METADATA")
  | some "COMPUTE" => return some (← keyword "STATISTICS")
  | some _ => return some ()
  | none => return none

def analysis : Reader Unit := do
  keyword "TABLE"
  let _ ← qualifiedName
  discard (many rules.analyzedPart)

def explanationOption : Reader Unit := do
  let _ ← name
  if !((← atSymbol ",") || (← atSymbol ")")) then discard rules.expression

def explained (mayHaveOptions : Bool) : Reader Unit := do
  if ← inDialects [.postgres, .duckdb] <&&> (pure mayHaveOptions <&&> atSymbol "(") then
    discard (inParens (separated rules.explanationOption))
  else if !(← tryKeywords ["QUERY", "PLAN"]) then
    let _ ← tryKeyword "ANALYZE"
    let _ ← tryKeyword "VERBOSE"
    behindRuns [["FORMAT"]] (discard (oneOf ["TEXT", "GRAPHVIZ", "JSON"]))
  match ← attempt rules.statement with
  | some .explanation => mismatch
  | some _ => return ()
  | none =>
    let _ ← tryOneOf ["EXTENDED", "FORMATTED"]
    discard qualifiedName

end Rules

end TriplesSql.Select
