import TriplesSql.Select.Selection

namespace TriplesSql.Select

open Reader

def tryConflict : Reader (List Tree) := do
  if ← tryKeyword "REPLACE" then return [.word "OR REPLACE"]
  for key in ["REPLACE", "ROLLBACK", "ABORT", "FAIL", "IGNORE"] do
    if ← tryKeywords ["OR", key] then return [.word ("OR " ++ key)]
  return []

def tryEach (keys : List String) : Reader (List String) := do
  let found ← keys.mapM fun key => do return (key, ← tryKeyword key)
  return (found.filter (·.2)).map (·.1)

/-- Names between parentheses, if a parenthesis comes next. Where it is allowed there may be none
between them. -/
def tryColumns (mayBeEmpty : Bool) : Reader (List Tree) := do
  if ← pure mayBeEmpty <&&> trySymbols ["(", ")"] then return [] else tryNameList

def assigned : Reader Tree := do
  if ← atSymbol "(" then return .parenthesizedList (← inParens (separated qualifiedName))
  else qualifiedName

def fileFormats : List String :=
  ["AVRO", "JSONFILE", "ORC", "PARQUET", "RCFILE", "SEQUENCEFILE", "TEXTFILE"]

namespace Rules

variable (rules : Rules)

def assignments : Reader Tree := do
  return .listed (← separated do
    let target ← assigned
    symbol "="
    return .spaced .clause [target, .sign "=", ← rules.expression])

def returning : Reader (List Tree) := optional "RETURNING" rules.selectItems

def condition : Reader (List Tree) := optional "WHERE" rules.expression

def onConflict : Reader (List Tree) := do
  if ← tryKeyword "ON" then
    if ← tryKeyword "CONFLICT" then
      let target ← if ← tryKeywords ["ON", "CONSTRAINT"] then
          pure (.word "ON CONFLICT ON CONSTRAINT" :: [← qualifiedName])
        else pure [.tight .clause (.word "ON CONFLICT" :: (← tryNameList))]
      keyword "DO"
      if ← tryKeyword "NOTHING" then return target ++ [.word "DO NOTHING"]
      keywords ["UPDATE", "SET"]
      let values ← rules.assignments
      return target ++ [.word "DO UPDATE SET", values] ++ (← rules.condition)
    else
      keywords ["DUPLICATE", "KEY", "UPDATE"]
      return [.word "ON DUPLICATE KEY UPDATE", ← rules.assignments]
  else return []

def writing (words : List String) : Reader Tree := do
  let path ← literalText
  let format ← if ← tryKeywords ["STORED", "AS"] then
      pure [.word "STORED AS", .word (← oneOf fileFormats)]
    else pure []
  let rows ← rules.query
  return .spaced .change (.word "INSERT" :: words.map .word
    ++ .word "DIRECTORY" :: .leaf .literal ("'" ++ path ++ "'") :: format ++ [rows])

def addedRows (mayBeEmpty : Bool) : Reader (List Tree) := do
  if ← tryKeywords ["DEFAULT", "VALUES"] then return [.word "DEFAULT VALUES"]
  let ahead ← get
  let columns ←
    if ahead.head? = some (.symbol "(") ∧ keyOf ahead[1]? = "SELECT" then pure []
    else do
      let columns ← tryColumns mayBeEmpty
      let partition ← if ← tryKeyword "PARTITION" then
          let parts ← inParens (separated rules.expression)
          pure [.word "PARTITION", .parenthesizedList parts]
        else pure []
      pure (columns ++ partition)
  return columns ++ [← rules.query]

def insertion (first : String) : Reader Tree := do
  let mysql ← inDialects [.mysql]
  let conflict ← tryConflict
  let priority ← if mysql then
      pure (← tryOneOf ["LOW_PRIORITY", "DELAYED", "HIGH_PRIORITY"]).toList
    else pure []
  let ignored ← tryEach (if mysql then ["IGNORE"] else [])
  let words ← tryEach ["OVERWRITE", "INTO"]
  let here ← tryEach ["LOCAL"]
  if ← tryKeyword "DIRECTORY" then
    return ← rules.writing (words.filter (· = "OVERWRITE") ++ here)
  let words := words ++ (← tryEach ["TABLE"])
  let target ← qualifiedName
  let named : Tree ← if ← inDialects [.postgres] then
      pure (.aliased target (← behind "AS" nameTree))
    else pure target
  let rows ← rules.addedRows mysql
  let label ← if mysql then
      match ← behind "AS" qualifiedName with
      | some n => pure (.word "AS" :: n :: (← tryNameList))
      | none => pure []
    else pure []
  let resolution ← rules.onConflict
  let result ← rules.returning
  let front := if conflict.isEmpty then (priority ++ ignored ++ words).map Tree.word
    else conflict ++ [.word "INTO"]
  return .spaced .change (.word first :: front ++ named :: rows ++ label ++ resolution ++ result)

def modification : Reader Tree := do
  let conflict ← tryConflict
  let table ← rules.source
  keyword "SET"
  let values ← rules.assignments
  let source ← if ← tryKeyword "FROM" then
      if ← inDialects [.mysql] then pure [] else pure [.word "FROM", ← rules.source]
    else pure []
  let condition ← rules.condition
  let result ← rules.returning
  return .spaced .change (.word "UPDATE" :: conflict ++ table :: .word "SET" :: values :: source
    ++ condition ++ result)

end Rules

end TriplesSql.Select
