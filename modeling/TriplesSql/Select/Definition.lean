import TriplesSql.Select.Change
import TriplesSql.Select.Column

namespace TriplesSql.Select

open Reader

def cluster : Reader Unit := behindRuns [["ON", "CLUSTER"]] (discard name)

def dropBehavior : Reader Unit := discard (tryOneOf ["CASCADE", "RESTRICT"])

def wordBehindEquals : Reader Unit := do
  symbol "="
  match ← next with
  | .word _ _ => return ()
  | _ => mismatch

def delimiterWords (key : String) : List String :=
  match key with
  | "COLLECTION" => ["ITEMS", "TERMINATED", "BY"]
  | "MAP" => ["KEYS", "TERMINATED", "BY"]
  | "NULL" => ["DEFINED", "AS"]
  | _ => ["TERMINATED", "BY"]

/-- What separates the parts of a row in a file, if it comes next. The keyword for a part is taken
in any case; where nothing more is said about the part, no other part may follow. -/
def rowDelimiter : Reader (Option Unit) := do
  match ← tryOneOf ["FIELDS", "COLLECTION", "MAP", "LINES", "NULL"] with
  | none => return none
  | some key =>
    if ← tryKeywords (delimiterWords key) then
      let _ ← name
      if key = "FIELDS" then behindRuns [["ESCAPED", "BY"]] (discard name)
      return some ()
    else return none

def functionText : Reader Unit := do
  match ← peek with
  | some (.string (.dollar _) _) => if ← inDialects [.postgres] then skip else mismatch
  | _ => discard literalText

def schemaName : Reader Unit := do
  if ← tryKeyword "AUTHORIZATION" then discard name
  else
    let _ ← qualifiedName
    behindRuns [["AUTHORIZATION"]] (discard name)

def newSchema : Reader Unit := do
  let _ ← ifNotExists
  schemaName

def newDatabase : Reader Unit := do
  let _ ← ifNotExists
  let _ ← qualifiedName
  let _ ← many do
    if (← tryOneOf ["LOCATION", "MANAGEDLOCATION"]).isSome then return some (← literalText)
    else return none

def newSequence : Reader Unit := do
  let _ ← ifNotExists
  let _ ← qualifiedName
  behindRuns [["AS"]] (discard SqlType.reader)
  sequenceOptions
  behindRuns [["OWNED", "BY"]] do if !(← tryKeyword "NONE") then discard qualifiedName

def typeField : Reader Unit := do
  let _ ← name
  let _ ← SqlType.reader
  behindRuns [["COLLATE"]] (discard qualifiedName)

def itemsToParen (item : Reader Unit) : Nat → Reader Unit
  | 0 => mismatch
  | fuel + 1 => do
    item
    let comma ← trySymbol ","
    if ← trySymbol ")" then return ()
    else if comma then itemsToParen item fuel
    else mismatch

/-- A new type. In one dialect it can be an enumeration of names, if no word stands between the
statement's first one and `TYPE`. -/
def newType (direct : Bool) : Reader Unit := do
  let _ ← qualifiedName
  keyword "AS"
  if ← inDialects [.postgres] <&&> pure direct <&&> tryKeyword "ENUM" then
    discard (inParens (separatedUnless ")" name))
  else if ← trySymbol "(" then
    if !(← trySymbol ")") then itemsToParen typeField (← bound)

def newExtension : Reader Unit := do
  let _ ← ifNotExists
  let _ ← name
  if ← tryKeyword "WITH" then
    behindRuns [["SCHEMA"]] (discard name)
    behindRuns [["VERSION"]] (discard name)
    discard (tryKeyword "CASCADE")

def newVirtualTable : Reader Unit := do
  keyword "TABLE"
  let _ ← ifNotExists
  let _ ← qualifiedName
  keyword "USING"
  let _ ← name
  discard tryNameList

/-- A new secret, with the place where it is kept. A lexeme that is no name may stand where its name
or its place is expected. -/
def newSecret : Reader Unit := do
  let _ ← ifNotExists
  if !(← atSymbol "(") then
    let first ← tryKeyword "IN"
    let found ← skipName
    if !(first && found) then behindRuns [["IN"]] (discard skipName)
  inParens do
    keyword "TYPE"
    let _ ← name
    if ← trySymbol "," then
      discard (separated do
        let _ ← name
        name)

def droppedOfTable (objectName : Reader Unit) : Reader Unit := do
  let _ ← ifExists
  objectName
  keyword "ON"
  let _ ← qualifiedName
  dropBehavior

def droppedObjects (isRole : Bool) : Reader Unit := do
  let _ ← ifExists
  let _ ← separated qualifiedName
  let cascade ← tryKeyword "CASCADE"
  let restrict ← tryKeyword "RESTRICT"
  let purge ← tryKeyword "PURGE"
  if cascade && restrict || isRole && (cascade || restrict || purge) then mismatch

def droppedSecret : Reader Unit := do
  let _ ← ifExists
  let _ ← name
  behindRuns [["FROM"]] (discard skipName)

namespace Rules

variable (rules : Rules)

def parameter : Reader Unit := do
  let _ ← tryOneOf ["IN", "OUT", "INOUT"]
  if (← SqlType.reader).kind = .custom then discard SqlType.reader
  if ← tryKeyword "DEFAULT" <||> trySymbol "=" then discard rules.expression

def functionName : Reader Unit := do
  let _ ← qualifiedName
  if ← atSymbol "(" then
    discard (inParens do
      if ← atSymbol ")" then return []
      else separated rules.parameter)

def removal : Reader Unit := do
  let temporary ← inDialects [.mysql, .duckdb] <&&> tryKeyword "TEMPORARY"
  let persistent ← inDialects [.duckdb] <&&> tryKeyword "PERSISTENT"
  match ← oneOf ["TABLE", "VIEW", "INDEX", "ROLE", "SCHEMA", "DATABASE", "SEQUENCE", "STAGE",
      "TYPE", "FUNCTION", "POLICY", "PROCEDURE", "SECRET", "TRIGGER"] with
  | "FUNCTION" | "PROCEDURE" =>
    let _ ← ifExists
    let _ ← separated rules.functionName
    dropBehavior
  | "POLICY" => droppedOfTable (discard name)
  | "TRIGGER" =>
    if ← inDialects [.postgres] then droppedOfTable (discard qualifiedName) else mismatch
  | "SECRET" => if temporary && persistent then mismatch else droppedSecret
  | key => droppedObjects (key = "ROLE")

def distribution : Reader Unit :=
  behindRuns [["PARTITIONED", "BY"]] (discard (inParens (separated rules.column)))

def storage : Reader Unit := do
  let _ ← many do
    if ← tryKeywords ["ROW", "FORMAT"] then
      if ← tryKeyword "SERDE" then return some (← discard literalText)
      let _ ← tryKeyword "DELIMITED"
      return some (← discard (many rowDelimiter))
    else if ← tryKeyword "ROW" then mismatch
    else if ← tryKeyword "STORED" then
      keyword "AS"
      if ← tryKeyword "INPUTFORMAT" then
        let _ ← rules.expression
        keyword "OUTPUTFORMAT"
        return some (← discard rules.expression)
      else return some (← discard (oneOf fileFormats))
    else if ← tryKeyword "LOCATION" then return some (← discard literalText)
    else if ← rules.options ["WITH", "SERDEPROPERTIES"] then return some ()
    else return none

def engine : Reader Unit := behindRuns [["ENGINE"]] do
  wordBehindEquals
  discard tryNameList

def firstIdentifier : Reader Unit := behindRuns [["AUTO_INCREMENT"]] do
  let _ ← trySymbol "="
  if (← count) < Nat.pow 2 32 then return () else mismatch

def tableOrder : Reader Unit := behindRuns [["ORDER", "BY"]] do
  if ← trySymbol "(" then
    if !(← atSymbol ")") then discard rules.expressions
    symbol ")"
  else discard rules.expression

def tableOptions : Reader Unit := do
  let _ ← tryKeywords ["WITHOUT", "ROWID"]
  rules.distribution
  rules.storage
  let _ ← rules.options ["WITH"]
  let _ ← rules.options ["TBLPROPERTIES"]
  engine
  firstIdentifier
  rules.tableOrder
  if ← inDialects [.postgres] then
    behindRuns [["PARTITION", "BY"]] (discard rules.expression)
  behindRuns [["DEFAULT", "CHARSET"]] wordBehindEquals
  behindRuns [["COLLATE"]] wordBehindEquals
  behindRuns [["ON", "COMMIT"]] (oneOfRuns [["DELETE", "ROWS"], ["PRESERVE", "ROWS"], ["DROP"]])
  let _ ← tryKeyword "STRICT"
  behindRuns [["COMMENT"]] do
    let _ ← trySymbol "="
    match ← next with
    | .string .plain _ => return ()
    | _ => mismatch

def model : Reader Unit := do
  behindRuns [["LIKE"], ["ILIKE"]] skipQualifiedName
  behindRuns [["CLONE"]] skipQualifiedName

def newTable : Reader Unit := do
  let _ ← ifNotExists
  let _ ← qualifiedName
  cluster
  model
  rules.tableElements
  rules.tableOptions
  if ← tryKeyword "AS" then discard rules.query
  else if ← inDialects [.mysql] <&&> atKeywords ["SELECT"] then discard rules.query

def newExternalTable : Reader Unit := do
  keyword "TABLE"
  let _ ← ifNotExists
  let _ ← qualifiedName
  rules.tableElements
  rules.distribution
  rules.storage
  discard (rules.options ["TBLPROPERTIES"])

def newView : Reader Unit := do
  let _ ← tryKeyword "MATERIALIZED"
  keyword "VIEW"
  let _ ← qualifiedName
  if ← trySymbol "(" then
    if !(← atSymbol ")") then discard (separated name)
    symbol ")"
  let _ ← rules.options ["WITH"]
  behindRuns [["CLUSTER"]] do
    keyword "BY"
    discard tryNameList
  keyword "AS"
  discard rules.query

def newIndex : Reader Unit := do
  let _ ← tryKeyword "CONCURRENTLY"
  let named ← if ← ifNotExists then pure true else pure !(← tryKeyword "ON")
  if named then
    let _ ← qualifiedName
    keyword "ON"
  let _ ← qualifiedName
  behindRuns [["USING"]] (discard name)
  let _ ← inParens rules.sortKeys
  behindRuns [["INCLUDE"]] (discard nameList)
  nullsDistinct
  if ← inDialects [.postgres] then behindRuns [["WITH"]] rules.expressionList
  behindRuns [["WHERE"]] (discard rules.expression)

def functionProperty : Reader (Option String) := do
  if ← tryKeyword "AS" then
    functionText
    return some "body"
  else if ← tryKeyword "LANGUAGE" then
    let _ ← name
    return some "language"
  else if ← tryRuns [["IMMUTABLE"], ["STABLE"], ["VOLATILE"]] then return some "behavior"
  else if ← tryRuns [["CALLED", "ON", "NULL", "INPUT"], ["RETURNS", "NULL", "ON", "NULL", "INPUT"],
      ["STRICT"]] then return some "missing"
  else if ← tryKeyword "PARALLEL" then
    let _ ← oneOf ["UNSAFE", "RESTRICTED", "SAFE"]
    return some "parallel"
  else if ← tryKeyword "RETURN" then
    let _ ← rules.expression
    return some "body"
  else return none

def newFunction : Reader Unit := do
  let _ ← qualifiedName
  let _ ← inParens do
    if ← atSymbol ")" then return []
    else separated rules.parameter
  behindRuns [["RETURNS"]] (discard SqlType.reader)
  let said ← many rules.functionProperty
  if said.eraseDups.length = said.length then return () else mismatch

def macroParameter : Reader Unit := do
  let _ ← name
  if ← trySymbol ":=" then discard rules.expression
  else if ← trySymbol "=>" then discard rules.expression

def newMacro : Reader Unit := do
  let _ ← qualifiedName
  let _ ← inParens do
    if ← atSymbol ")" then return []
    else separated rules.macroParameter
  keyword "AS"
  if ← tryKeyword "TABLE" then discard rules.query else discard rules.expression

def triggerEvent : Reader Unit := do
  if (← oneOf ["INSERT", "UPDATE", "DELETE", "TRUNCATE"]) = "UPDATE" then
    behindRuns [["OF"]] (discard (separated name))

/-- A name for the rows that a trigger sees, if one comes next. The first keyword is taken in any
case. -/
def triggerRows : Reader (Option Unit) := do
  if (← tryOneOf ["OLD", "NEW"]).isNone then return none
  else if ← tryKeyword "TABLE" then
    let _ ← tryKeyword "AS"
    return some (← discard qualifiedName)
  else return none

def newTrigger : Reader Unit := do
  if !(← inDialects [.postgres]) then mismatch
  let _ ← qualifiedName
  oneOfRuns [["BEFORE"], ["AFTER"], ["INSTEAD", "OF"]]
  triggerEvent
  let _ ← many (behind "OR" triggerEvent)
  keyword "ON"
  let _ ← qualifiedName
  behindRuns [["FROM"]] skipQualifiedName
  constraintTimes
  behindRuns [["REFERENCING"]] (discard (many triggerRows))
  keyword "FOR"
  let _ ← tryKeyword "EACH"
  let _ ← oneOf ["ROW", "STATEMENT"]
  behindRuns [["WHEN"]] (discard rules.expression)
  keyword "EXECUTE"
  let _ ← oneOf ["FUNCTION", "PROCEDURE"]
  rules.functionName

end Rules

end TriplesSql.Select
