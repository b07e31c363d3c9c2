import TriplesSql.Select.Column

namespace TriplesSql.Select

open Reader

def byteText : Reader Unit := do
  if (← literalText).utf8ByteSize = 1 then return () else mismatch

def tryTruth : Reader Unit := discard (tryOneOf ["TRUE", "FALSE"])

def copyOption : Reader Unit := do
  match ← oneOf ["FORMAT", "FREEZE", "DELIMITER", "NULL", "HEADER", "QUOTE", "ESCAPE",
      "FORCE_QUOTE", "FORCE_NOT_NULL", "FORCE_NULL", "ENCODING"] with
  | "FORMAT" => discard name
  | "FREEZE" | "HEADER" => tryTruth
  | "DELIMITER" | "QUOTE" | "ESCAPE" => byteText
  | "NULL" | "ENCODING" => discard literalText
  | _ => discard nameList

def commaOption : Reader (Option Unit) := do
  if ← tryKeyword "HEADER" then return some ()
  else if ← tryRuns [["QUOTE", "AS"], ["QUOTE"], ["ESCAPE", "AS"], ["ESCAPE"]] then
    return some (← byteText)
  else if ← tryRuns [["FORCE", "NOT", "NULL"], ["FORCE", "QUOTE"]] then
    return some (← discard (separated name))
  else return none

def bareCopyOption : Reader (Option Unit) := do
  if ← tryKeyword "BINARY" then return some ()
  else if ← tryRuns [["DELIMITER", "AS"], ["DELIMITER"]] then return some (← byteText)
  else if ← tryRuns [["NULL", "AS"], ["NULL"]] then return some (← discard literalText)
  else if ← tryKeyword "CSV" then
    return some (← discard (many do return (← attempt commaOption).join))
  else return none

/-- What follows the mark behind rows that stand in the text. A backslash that does not begin the
mark goes together with the lexeme behind it. -/
def afterRows : List Lexeme → List Lexeme
  | .symbol "\\" :: .symbol "." :: rest => rest
  | .symbol "\\" :: _ :: rest => afterRows rest
  | _ :: rest => afterRows rest
  | [] => []

def inputRows : Reader Unit := do
  symbol ";"
  modify afterRows

def tableLock : Reader Unit := do
  let _ ← name
  let _ ← tryAlias ["READ", "WRITE", "LOW_PRIORITY"]
  if ← tryKeyword "READ" then discard (tryKeyword "LOCAL")
  else oneOfRuns [["WRITE"], ["LOW_PRIORITY", "WRITE"]]

def attachOption : Reader Unit := do
  if ← tryKeyword "READ_ONLY" then tryTruth
  else
    keyword "TYPE"
    discard name

def commaBetween (p : Reader Unit) : Reader Unit := do
  p
  discard (many do if ← trySymbol "," then return some (← p) else return none)

namespace Rules

variable (rules : Rules)

/-- A database that is attached. One dialect gives it a name with quotes, the others a value. -/
def attachment : Reader Unit := do
  let _ ← tryKeyword "DATABASE"
  if ← inDialects [.duckdb] then
    let _ ← ifNotThere
    let _ ← name
    behindRuns [["AS"]] (discard name)
    if ← atSymbol "(" then inParens (commaBetween attachOption)
  else
    let _ ← rules.expression
    keyword "AS"
    discard name
where
  ifNotThere : Reader Bool := tryKeywords ["IF", "NOT", "EXISTS"]

def copySource : Reader Bool := do
  if ← atSymbol "(" then
    let _ ← inParens rules.query
    return true
  else
    let _ ← qualifiedName
    let _ ← tryNameList
    return false

def copy : Reader Unit := do
  let isQuery ← rules.copySource
  let direction ← oneOf ["FROM", "TO"]
  if direction = "FROM" && isQuery then mismatch
  let fromInput ← tryKeyword "STDIN"
  if !fromInput then
    if !(← tryKeyword "STDOUT") then
      let _ ← tryKeyword "PROGRAM"
      discard literalText
  let _ ← tryKeyword "WITH"
  if ← atSymbol "(" then discard (inParens (separated copyOption))
  let _ ← many do return (← attempt bareCopyOption).join
  if fromInput then inputRows

def unloading : Reader Unit := do
  let _ ← inParens rules.query
  keyword "TO"
  discard name

def keptQuery : Reader Unit := do
  match ← peek with
  | some (.word _ _) =>
    let _ ← tryKeyword "AS"
    discard rules.query
  | _ => mismatch

def caching : Reader Unit := do
  if !(← tryKeyword "TABLE") then
    let _ ← qualifiedName
    keyword "TABLE"
  let _ ← qualifiedName
  let _ ← rules.options ["OPTIONS"]
  if !(← get).isEmpty then rules.keptQuery

end Rules

end TriplesSql.Select
