import TriplesSql.Select.Operand

namespace TriplesSql.Select

open Reader

def right : Reader Unit := do
  let key ← oneOf ["CONNECT", "CREATE", "DELETE", "EXECUTE", "INSERT", "REFERENCES", "SELECT",
    "TEMPORARY", "TRIGGER", "TRUNCATE", "UPDATE", "USAGE"]
  if ["INSERT", "REFERENCES", "SELECT", "UPDATE"].contains key then discard tryNameList

def rightList : Reader Unit := do
  right
  let _ ← many do
    if ← trySymbol "," then
      if ← inDialects [.duckdb] <&&> atKeywords ["ON"] then return none else return some (← right)
    else return none

def rightsOnObjects : Reader Unit := do
  if ← tryKeyword "ALL" then discard (tryKeyword "PRIVILEGES") else rightList
  keyword "ON"
  if !(← tryRuns [["ALL", "TABLES", "IN", "SCHEMA"], ["ALL", "SEQUENCES", "IN", "SCHEMA"]]) then
    discard (tryOneOf ["SEQUENCE", "SCHEMA", "TABLE"])
  discard (separated qualifiedName)

def grantor : Reader Unit := behindRuns [["GRANTED", "BY"]] (discard name)

def grant : Reader Unit := do
  rightsOnObjects
  keyword "TO"
  let _ ← separated name
  let _ ← tryKeywords ["WITH", "GRANT", "OPTION"]
  grantor

def revocation : Reader Unit := do
  rightsOnObjects
  keyword "FROM"
  let _ ← separated name
  grantor
  discard (tryOneOf ["CASCADE", "RESTRICT"])

def rolePowers : List String :=
  ["BYPASSRLS", "NOBYPASSRLS", "CREATEDB", "NOCREATEDB", "CREATEROLE", "NOCREATEROLE", "INHERIT",
    "NOINHERIT", "LOGIN", "NOLOGIN", "REPLICATION", "NOREPLICATION", "SUPERUSER", "NOSUPERUSER"]

def powerOf (key : String) : String :=
  if key.startsWith "NO" then (key.drop 2).toString else key

def roleLimit : Reader (Option String) := do
  if ← tryKeyword "CONNECTION" then
    keyword "LIMIT"
    let _ ← unsignedNumber
    return some "CONNECTION"
  else if ← tryKeyword "PASSWORD" then
    let _ ← value
    return some "PASSWORD"
  else if ← tryKeyword "VALID" then
    keyword "UNTIL"
    let _ ← value
    return some "VALID"
  else return none

def roleProperty : Reader (Option String) := do
  match ← tryOneOf rolePowers with
  | some key => return some (powerOf key)
  | none => roleLimit

/-- The roles that a new role belongs to or that belong to it, if they come next. The keyword for
groups that belong to it is taken, but no groups may stand behind it. -/
def roleMembers : Reader (Option String) := do
  match ← tryOneOf ["IN", "ROLE", "GROUP", "USER", "ADMIN"] with
  | some "IN" =>
    let kind ← oneOf ["ROLE", "GROUP"]
    let _ ← separated name
    return some ("IN " ++ kind)
  | some "GROUP" => return none
  | some key =>
    let _ ← separated name
    return some key
  | none => return none

def newRoleProperty : Reader (Option String) := do
  match (← read).dialect with
  | .tsql =>
    if ← tryKeyword "AUTHORIZATION" then
      let _ ← qualifiedName
      return some "AUTHORIZATION"
    else return none
  | .postgres =>
    match ← roleProperty with
    | some what => return some what
    | none => roleMembers
  | _ => return none

def newRole : Reader Unit := do
  let _ ← tryKeywords ["IF", "NOT", "EXISTS"]
  let _ ← separated qualifiedName
  let _ ← tryKeyword "WITH"
  let said ← many newRoleProperty
  if said.eraseDups.length = said.length then return () else mismatch

namespace Rules

variable (rules : Rules)

def roleSetting : Reader Unit := do
  let _ ← qualifiedName
  if !(← tryKeywords ["FROM", "CURRENT"]) then
    if !(← trySymbol "=") then keyword "TO"
    if !(← tryKeyword "DEFAULT") then discard rules.expression

def roleChange : Reader Unit := do
  match (← read).dialect with
  | .postgres =>
    let _ ← name
    behindRuns [["IN", "DATABASE"]] skipQualifiedName
    if ← tryKeyword "RENAME" then
      keyword "TO"
      discard name
    else if ← tryKeyword "SET" then rules.roleSetting
    else if ← tryKeyword "RESET" then
      if !(← tryKeyword "ALL") then discard qualifiedName
    else
      let _ ← tryKeyword "WITH"
      let said ← many do return (← attempt roleProperty).join
      if said.isEmpty then mismatch
  | .tsql =>
    let _ ← name
    match ← oneOf ["ADD", "DROP", "WITH"] with
    | "WITH" =>
      keyword "NAME"
      symbol "="
    | _ => keyword "MEMBER"
    discard name
  | _ => mismatch

def policyConditions : Reader Unit := do
  behindRuns [["TO"]] (discard (separated name))
  behindRuns [["USING"]] (discard (inParens rules.expression))
  behindRuns [["WITH"]] do
    keyword "CHECK"
    discard (inParens rules.expression)

def newPolicy : Reader Unit := do
  let _ ← name
  keyword "ON"
  let _ ← qualifiedName
  behindRuns [["AS"]] (discard (oneOf ["PERMISSIVE", "RESTRICTIVE"]))
  behindRuns [["FOR"]] (discard (oneOf ["ALL", "SELECT", "INSERT", "UPDATE", "DELETE"]))
  rules.policyConditions

def policyChange : Reader Unit := do
  let _ ← name
  keyword "ON"
  let _ ← qualifiedName
  if ← tryKeyword "RENAME" then
    keyword "TO"
    discard name
  else rules.policyConditions

end Rules

end TriplesSql.Select
