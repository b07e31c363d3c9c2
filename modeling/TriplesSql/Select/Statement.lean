import TriplesSql.Select.Alteration
import TriplesSql.Select.Lexer
import TriplesSql.Select.Operator
import TriplesSql.Select.Query
import TriplesSql.Select.Session
import TriplesSql.Select.Transfer

/-!
# Statements in query text

A text is a run of statements with semicolons between them. Only a text of exactly one statement
that is a query can be nested; the other statements are read so that they can be told apart from a
text that is no statement at all.
-/

namespace TriplesSql.Select

open Reader

/-- Why a text is no single query. -/
inductive ReadError where
  | malformed
  | statementCount (n : Nat)
  | notASelect
  deriving DecidableEq, Repr

def ReadError.message : ReadError → String
  | .malformed => "Syntax error"
  | .statementCount n =>
    "Expected a single SELECT statement, found " ++ toString n ++ " statements"
  | .notASelect => "Statement is not a SELECT query"

def skipSemicolons : Reader Bool := do
  let found ← many do
    if ← trySymbol ";" then return some () else return none
  return !found.isEmpty

/-- The statements of a text or block, at most `fuel` of them. A statement needs a semicolon before
the next one; reading stops at a word that closes a block. -/
def statementsWithin (statement : Reader Statement) : Nat → Reader (List Statement)
  | 0 => mismatch
  | fuel + 1 => do
    let _ ← skipSemicolons
    if (← get).isEmpty then return []
    let s ← statement
    let ended ← skipSemicolons
    if ended then return s :: (← statementsWithin statement fuel)
    else if (← get).isEmpty ∨ (← peekKey) = "END" then return [s]
    else mismatch

def statements (statement : Reader Statement) : Reader (List Statement) := do
  statementsWithin statement (← bound)

namespace Rules

variable (rules : Rules)

def deletion : Reader Unit := do
  if !(← tryKeyword "FROM") then
    let _ ← separated qualifiedName
    keyword "FROM"
  let _ ← rules.sources
  behindRuns [["USING"]] (discard rules.sources)
  let _ ← rules.condition
  let _ ← rules.returning
  let _ ← rules.order
  behindRuns [["LIMIT"]] (discard rules.limit)

def mergeAction (isNew : Bool) : Reader Unit := do
  match ← oneOf ["UPDATE", "INSERT", "DELETE"] with
  | "INSERT" =>
    if !isNew then mismatch
    let _ ← tryColumns (← inDialects [.mysql])
    keyword "VALUES"
    discard rules.rows
  | "UPDATE" =>
    if isNew then mismatch
    keyword "SET"
    discard rules.assignments
  | _ => if isNew then mismatch

def mergeBranch : Reader (Option Unit) := do
  if (← get).isEmpty || (← atSymbol ";") then return none
  keyword "WHEN"
  let unmatched ← tryKeyword "NOT"
  keyword "MATCHED"
  let bySource ← pure unmatched <&&> tryKeywords ["BY", "SOURCE"]
  if unmatched && !bySource then discard (tryKeywords ["BY", "TARGET"])
  behindRuns [["AND"]] (discard rules.expression)
  keyword "THEN"
  rules.mergeAction (unmatched && !bySource)
  return some ()

def merging : Reader Unit := do
  let _ ← tryKeyword "INTO"
  let _ ← rules.singleSource
  keyword "USING"
  let _ ← rules.singleSource
  keyword "ON"
  let _ ← rules.expression
  discard (many rules.mergeBranch)

def procedureParameter : Reader Unit := do
  match ← peek with
  | some (.word _ _) =>
    let _ ← name
    discard SqlType.reader
  | _ => return ()

def newProcedure : Reader Unit := do
  let _ ← qualifiedName
  if ← trySymbol "(" then
    if !(← trySymbol ")") then itemsToParen procedureParameter (← bound)
  keywords ["AS", "BEGIN"]
  let _ ← statements rules.statement
  keyword "END"

def replaceable (key : String) : Option (Reader Unit) :=
  match key with
  | "TABLE" => some rules.newTable
  | "POLICY" => some rules.newPolicy
  | "EXTERNAL" => some rules.newExternalTable
  | "FUNCTION" => some do
    match (← read).dialect with
    | .postgres => rules.newFunction
    | .duckdb => rules.newMacro
    | _ => mismatch
  | "TRIGGER" => some rules.newTrigger
  | "CONSTRAINT" => some do
    keyword "TRIGGER"
    rules.newTrigger
  | "MACRO" => some do if ← inDialects [.duckdb] then rules.newMacro else mismatch
  | "SECRET" => some newSecret
  | _ => none

def fresh (direct : Bool) (key : String) : Reader Unit :=
  match key with
  | "EXTENSION" => newExtension
  | "INDEX" => rules.newIndex
  | "UNIQUE" => do
    keyword "INDEX"
    rules.newIndex
  | "VIRTUAL" => newVirtualTable
  | "SCHEMA" => newSchema
  | "DATABASE" => newDatabase
  | "ROLE" => newRole
  | "SEQUENCE" => newSequence
  | "TYPE" => newType direct
  | "PROCEDURE" => rules.newProcedure
  | _ => mismatch

def creation : Reader Unit := do
  let second ← peekKey
  let replacing ← tryKeywords ["OR", "REPLACE"]
  let _ ← tryKeywords ["OR", "ALTER"]
  let _ ← tryEach ["LOCAL", "GLOBAL", "TRANSIENT"]
  let temporary ← tryOneOf ["TEMP", "TEMPORARY"]
  let persistent ← inDialects [.duckdb] <&&> tryKeyword "PERSISTENT"
  let key ← peekKey
  if key = "MATERIALIZED" ∨ key = "VIEW" then rules.newView
  else if key = "SECRET" ∧ temporary.isSome ∧ persistent then mismatch
  else
    skip
    match rules.replaceable key with
    | some p => p
    | none => if replacing then mismatch else rules.fresh (second == key) key

def commonStatement? (key : String) : Option (Reader Unit) :=
  match key with
  | "KILL" => some kill
  | "FLUSH" => some flush
  | "ANALYZE" => some rules.analysis
  | "TRUNCATE" => some do
    let _ ← tryEach ["TABLE", "ONLY"]
    let _ ← separated qualifiedName
    behindRuns [["PARTITION"]] rules.expressionList
    if ← inDialects [.postgres] then
      let _ ← tryRuns [["RESTART", "IDENTITY"], ["CONTINUE", "IDENTITY"]]
      dropBehavior
    cluster
  | "ATTACH" => some rules.attachment
  | "MSCK" => some do
    let _ ← tryKeyword "REPAIR"
    keyword "TABLE"
    let _ ← qualifiedName
    discard (tryRuns (["PARTITIONS"] :: ["ADD", "DROP", "SYNC"].map fun k => [k, "PARTITIONS"]))
  | "CREATE" => some rules.creation
  | "CACHE" => some rules.caching
  | "UNCACHE" => some do
    keyword "TABLE"
    let _ ← ifExists
    discard qualifiedName
  | "DROP" => some rules.removal
  | "DISCARD" => some (discard (oneOf ["ALL", "PLANS", "SEQUENCES", "TEMP", "TEMPORARY"]))
  | "DECLARE" => some rules.declaration
  | "FETCH" => some fetchedRows
  | "DELETE" => some rules.deletion
  | "INSERT" => some (discard (rules.insertion key))
  | "UPDATE" => some (discard rules.modification)
  | "ALTER" => some rules.alteration
  | "CALL" => some rules.procedureCall
  | "COPY" => some rules.copy
  | "CLOSE" => some (discard name)
  | "SET" => some rules.setting
  | "SHOW" => some rules.shown
  | "USE" => some (discard qualifiedName)
  | "GRANT" => some grant
  | "REVOKE" => some revocation
  | "START" => some do
    keyword "TRANSACTION"
    transactionModes (← bound) false
  | "BEGIN" => some transactionStart
  | "END" | "COMMIT" => some transactionEnd
  | "SAVEPOINT" => some (discard name)
  | "RELEASE" => some do
    let _ ← tryKeyword "SAVEPOINT"
    discard name
  | "ROLLBACK" => some rollback
  | "ASSERT" => some rules.assertion
  | "DEALLOCATE" => some do
    let _ ← tryKeyword "PREPARE"
    discard name
  | "EXECUTE" | "EXEC" => some rules.execution
  | "PREPARE" => some rules.preparation
  | "MERGE" => some rules.merging
  | "PRAGMA" => some pragma
  | "UNLOAD" => some do
    rules.unloading
    discard (rules.options ["WITH"])
  | _ => none

def dialectStatement? (d : Dialect) (key : String) : Option (Reader Unit) :=
  match d, key with
  | .postgres, "LISTEN" => some (discard name)
  | .postgres, "UNLISTEN" => some do if !(← trySymbol "*") then discard name
  | .postgres, "NOTIFY" => some notification
  | .postgres, "COMMENT" => some commentOn
  | .postgres, "LOAD" | .duckdb, "LOAD" | .duckdb, "INSTALL" => some (discard name)
  | .duckdb, "DETACH" => some do
    let _ ← tryKeyword "DATABASE"
    let _ ← ifExists
    discard name
  | .mysql, "REPLACE" => some (discard (rules.insertion key))
  | .mysql, "LOCK" => some do
    keyword "TABLES"
    discard (separated tableLock)
  | .mysql, "UNLOCK" => some (keyword "TABLES")
  | _, _ => none

def statementRule : Reader Statement := do
  let key ← peekKey
  if ["SELECT", "WITH", "VALUES"].contains key || (← atSymbol "(") then
    return .query (← rules.query)
  else
    skip
    if ["EXPLAIN", "DESCRIBE", "DESC"].contains key then
      rules.explained (key = "EXPLAIN")
      return .explanation
    else
      let d := (← read).dialect
      match (rules.commonStatement? key).orElse fun _ => rules.dialectStatement? d key with
      | some p =>
        p
        return .other
      | none => mismatch

end Rules

/-- The rules for texts of at most `fuel` lexemes and levels together. An expression, a query and a
statement counts towards the depth; everything else stands behind a lexeme of its own. -/
def rulesWithin : Nat → Rules
  | 0 => .empty
  | fuel + 1 =>
    let inner := rulesWithin fuel
    { above := fun level => deeper (inner.expressionRule level)
      operand := inner.operandRule
      query := deeper inner.queryRule
      source := inner.sourceRule
      statement := deeper inner.statementRule }

def nestingLimit : Nat := 50

def statementsOf? (d : Dialect) (sql : String) : Option (List Statement) := do
  let ts ← lexemes? d sql
  let rules := rulesWithin (ts.length + nestingLimit + 2)
  match (statements rules.statement ⟨d, ts.length, nestingLimit, false⟩).run ts with
  | .ok (found, _) => some found
  | .error _ => none

def read (d : Dialect) (sql : String) : Except ReadError Tree :=
  match statementsOf? d sql with
  | none => .error .malformed
  | some [.query t] => .ok t
  | some [_] => .error .notASelect
  | some ss => .error (.statementCount ss.length)

end TriplesSql.Select
