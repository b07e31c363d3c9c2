import TriplesSql.Select.Definition
import TriplesSql.Select.Privilege

namespace TriplesSql.Select

open Reader

def nameToName : Reader Unit := do
  let _ ← name
  keyword "TO"
  discard name

def columnPlace : Reader Unit := do
  if ← inDialects [.mysql] then
    if !(← tryKeyword "FIRST") then behindRuns [["AFTER"]] (discard name)

def renamed : Reader Unit := do
  if ← inDialects [.postgres] <&&> tryKeyword "CONSTRAINT" then nameToName
  else if ← tryKeyword "TO" then discard qualifiedName
  else
    let _ ← tryKeyword "COLUMN"
    nameToName

def disabled : Reader Unit := do
  if !(← tryKeywords ["ROW", "LEVEL", "SECURITY"]) then
    let _ ← oneOf ["RULE", "TRIGGER"]
    discard name

def enabled : Reader Unit := do
  if !(← tryKeywords ["ROW", "LEVEL", "SECURITY"]) then
    let _ ← tryOneOf ["ALWAYS", "REPLICA"]
    let _ ← oneOf ["RULE", "TRIGGER"]
    discard name

namespace Rules

variable (rules : Rules)

def added : Reader Unit := do
  if !(← rules.tryConstraint) then
    let _ ← ifNotExists
    let parts ← many (behind "PARTITION" rules.expressionList)
    if parts.isEmpty then
      let _ ← tryKeyword "COLUMN"
      if ← inDialects [.postgres, .duckdb] then discard ifNotExists
      rules.column
      columnPlace

/-- A part of a table that goes away. The keywords of a primary key say it all in one dialect; in
the others, as that of a projection, they may stand in front of what is dropped. -/
def dropped : Reader Unit := do
  if ← tryRuns [["IF", "EXISTS", "PARTITION"], ["PARTITION"]] then rules.expressionList
  else if ← tryKeyword "CONSTRAINT" then droppedPart
  else if ← tryKeywords ["PRIMARY", "KEY"] <&&> inDialects [.mysql] then return ()
  else
    let _ ← tryKeyword "PROJECTION"
    if !(← tryKeywords ["CLUSTERING", "KEY"]) then
      let _ ← tryKeyword "COLUMN"
      droppedPart
where
  droppedPart : Reader Unit := do
    let _ ← ifExists
    let _ ← name
    discard (tryKeyword "CASCADE")

def retyped : Reader Unit := do
  let _ ← name
  let _ ← SqlType.reader
  let _ ← many do if ← rules.columnProperty then return some () else return none
  columnPlace

def columnChange : Reader Unit := do
  let _ ← tryKeyword "COLUMN"
  let _ ← name
  let postgres ← inDialects [.postgres]
  if ← tryRuns [["SET", "NOT", "NULL"], ["DROP", "NOT", "NULL"], ["DROP", "DEFAULT"]] then return ()
  else if ← tryKeywords ["SET", "DEFAULT"] then discard rules.expression
  else if ← tryKeywords ["SET", "DATA", "TYPE"] <||> (pure postgres <&&> tryKeyword "TYPE") then
    let _ ← SqlType.reader
    if postgres then behindRuns [["USING"]] (discard rules.expression)
  else
    keywords ["ADD", "GENERATED"]
    let _ ← tryRuns [["ALWAYS"], ["BY", "DEFAULT"]]
    keywords ["AS", "IDENTITY"]
    if ← atSymbol "(" then inParens sequenceOptions

def furtherChange : Reader Unit := do
  match ← tryOneOf ["DROP", "PARTITION", "CHANGE", "MODIFY", "ALTER", "SWAP"] with
  | some "DROP" => rules.dropped
  | some "PARTITION" =>
    rules.expressionList
    keywords ["RENAME", "TO", "PARTITION"]
    rules.expressionList
  | some "CHANGE" =>
    let _ ← tryKeyword "COLUMN"
    let _ ← name
    rules.retyped
  | some "MODIFY" =>
    let _ ← tryKeyword "COLUMN"
    rules.retyped
  | some "ALTER" => rules.columnChange
  | some _ =>
    keyword "WITH"
    discard qualifiedName
  | none =>
    if ← inDialects [.postgres] <&&> tryKeywords ["OWNER", "TO"] then discard name
    else if ← tryKeywords ["CLUSTER", "BY"] then rules.expressionList
    else if ← tryRuns [["SUSPEND", "RECLUSTER"], ["RESUME", "RECLUSTER"]] then return ()
    else if ← rules.options ["SET", "TBLPROPERTIES"] then return ()
    else mismatch

/-- One change of a table. The keywords of a change of a projection may stand in front of some
changes and mean nothing. -/
def tableChange : Reader Unit := do
  match ← tryOneOf ["ADD", "RENAME", "DISABLE", "ENABLE"] with
  | some "ADD" => rules.added
  | some "RENAME" => renamed
  | some "DISABLE" => disabled
  | some _ => enabled
  | none =>
    let _ ← tryKeywords ["CLEAR", "PROJECTION"]
    let _ ← tryKeywords ["MATERIALIZE", "PROJECTION"]
    rules.furtherChange

def alteredTable : Reader Unit := do
  let _ ← ifExists
  let _ ← tryKeyword "ONLY"
  let _ ← qualifiedName
  cluster
  let _ ← separated rules.tableChange
  behindRuns [["LOCATION"], ["SET", "LOCATION"]] (discard name)

def alteredView : Reader Unit := do
  let _ ← qualifiedName
  let _ ← tryNameList
  let _ ← rules.options ["WITH"]
  keyword "AS"
  discard rules.query

def alteration : Reader Unit := do
  match ← oneOf ["VIEW", "TABLE", "INDEX", "ROLE", "POLICY"] with
  | "VIEW" => rules.alteredView
  | "TABLE" => rules.alteredTable
  | "INDEX" =>
    let _ ← qualifiedName
    keywords ["RENAME", "TO"]
    discard qualifiedName
  | "ROLE" => rules.roleChange
  | _ => rules.policyChange

end Rules

end TriplesSql.Select
