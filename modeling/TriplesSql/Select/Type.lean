import TriplesSql.Select.Literal

/-!
# Types in query text

The types of casts, of column definitions and of literals with a type in front. A known type is
written in its canonical case with its arguments; any other name is a type of the database and stays
as it is.
-/

namespace TriplesSql.Select

inductive TypeKind where
  | known
  | interval
  | custom
  deriving DecidableEq, Repr

structure SqlType where
  kind : TypeKind
  text : String

namespace SqlType

open Reader

def argument (p : Reader String) : Reader String := do
  if ← atSymbol "(" then return "(" ++ (← inParens p) ++ ")" else return ""

def size : Reader String := argument do return toString (← count)

def precision : Reader String := argument do
  let p ← count
  if ← trySymbol "," then return toString p ++ "," ++ toString (← count) else return toString p

def textLength : Reader String := argument do
  if ← tryKeyword "MAX" then return "MAX"
  let n := toString (← count)
  match ← tryOneOf ["CHARACTERS", "OCTETS"] with
  | some unit => return n ++ " " ++ unit
  | none => return n

def timeZone : Reader String := do
  match ← tryOneOf ["WITH", "WITHOUT"] with
  | some word =>
    keywords ["TIME", "ZONE"]
    return " " ++ word ++ " TIME ZONE"
  | none => return ""

def quoted (s : String) : String := between '\'' s

def setMembers : Nat → Reader (List String)
  | 0 => mismatch
  | fuel + 1 => do
    match ← next with
    | .string .plain s =>
      if ← trySymbol ")" then return [quoted s]
      else
        symbol ","
        return quoted s :: (← setMembers fuel)
    | _ => mismatch

def enumMember : Reader String := do
  let s := quoted (← literalText)
  if ← trySymbol "=" then return s ++ " = " ++ (← signedNumber).text else return s

def modifiers : Nat → Reader (List String)
  | 0 => mismatch
  | fuel + 1 => do
    match ← next with
    | .word n _ => return n.literal :: (← modifiers fuel)
    | .number s _ => return s :: (← modifiers fuel)
    | .string .plain s => return s :: (← modifiers fuel)
    | .symbol "," => modifiers fuel
    | .symbol ")" => return []
    | _ => mismatch

def customText : Reader String := do
  let typeName ← qualifiedName
  if ← trySymbol "(" then
    match ← modifiers (← bound) with
    | [] => return typeName.text
    | arguments => return typeName.text ++ "(" ++ ", ".intercalate arguments ++ ")"
  else return typeName.text

def plainTypes : List (String × String) :=
  [("FLOAT32", "Float32"), ("INT16", "Int16"), ("INT32", "Int32"), ("INT128", "Int128"),
    ("INT256", "Int256"), ("UINT8", "UInt8"), ("UINT16", "UInt16"), ("UINT32", "UInt32"),
    ("UINT64", "UInt64"), ("UINT128", "UInt128"), ("UINT256", "UInt256"), ("DATE32", "Date32")]
  ++ ["BOOLEAN", "BOOL", "REAL", "FLOAT4", "FLOAT8", "FLOAT64", "INT64", "UUID", "DATE", "JSON",
    "JSONB", "REGCLASS", "TEXT", "TINYTEXT", "MEDIUMTEXT", "LONGTEXT", "TINYBLOB", "MEDIUMBLOB",
    "LONGBLOB", "BYTEA", "TRIGGER"].map fun key => (key, key)

def sizedTypes : List String :=
  ["FLOAT", "DATETIME", "TIMESTAMPTZ", "TIMETZ", "CLOB", "BINARY", "VARBINARY", "BLOB", "BYTES",
    "STRING"]

def integerTypes : List String :=
  ["TINYINT", "INT2", "SMALLINT", "MEDIUMINT", "INT", "INT4", "INT8", "INTEGER", "BIGINT"]

def exactTypes : List String := ["NUMERIC", "DECIMAL", "DEC", "BIGNUMERIC", "BIGDECIMAL"]

def knownText? (key : String) : Option (Reader String) :=
  if let some text := plainTypes.lookup key then some (return text)
  else if sizedTypes.contains key then some (return key ++ (← size))
  else if integerTypes.contains key then some do
    let length ← size
    return key ++ length ++ (if ← tryKeyword "UNSIGNED" then " UNSIGNED" else "")
  else if exactTypes.contains key then some (return key ++ (← precision))
  else match key with
  | "VARCHAR" | "NVARCHAR" => some (return key ++ (← textLength))
  | "DOUBLE" => some do
    if ← tryKeyword "PRECISION" then return "DOUBLE PRECISION" else return key
  | "CHARACTER" | "CHAR" => some do
    if ← tryKeyword "VARYING" then return key ++ " VARYING" ++ (← textLength)
    else if ← tryKeywords ["LARGE", "OBJECT"] then return key ++ " LARGE OBJECT" ++ (← size)
    else return key ++ (← textLength)
  | "BIT" => some do
    if ← tryKeyword "VARYING" then return "BIT VARYING" ++ (← size) else return key ++ (← size)
  | "TIME" | "TIMESTAMP" => some do
    let fraction ← size
    return key ++ fraction ++ (← timeZone)
  | "DATETIME64" => some do
    let arguments ← inParens do
      let p := toString (← count)
      if ← trySymbol "," then return p ++ ", '" ++ (← literalText) ++ "'" else return p
    return "DateTime64(" ++ arguments ++ ")"
  | "FIXEDSTRING" => some do return "FixedString(" ++ toString (← inParens count) ++ ")"
  | "ENUM" | "ENUM8" | "ENUM16" => some do
    let members ← inParens (separated enumMember)
    return key ++ "(" ++ ", ".intercalate members ++ ")"
  | "SET" => some do
    symbol "("
    return "SET(" ++ ", ".intercalate (← setMembers (← bound)) ++ ")"
  | _ => none

def arraySuffix : Reader String := do
  let sized ← inDialects [.postgres, .duckdb]
  let brackets ← many do
    if ← trySymbol "[" then
      let length ← if sized then attempt count else pure none
      symbol "]"
      return some ("[" ++ (length.map toString).getD "" ++ "]")
    else return none
  return String.join brackets

/-- Takes the closing bracket of a type that holds another one. Two closing brackets can be one
symbol; then the second of them is left to the type outside. -/
def closingBracket (isClosed : Bool) : Reader Bool := do
  if isClosed then return false
  else if ← trySymbol ">" then return false
  else if ← trySymbol ">>" then return true
  else mismatch

/-- Reads a type, with a bound for the types inside it, and says whether the bracket that closes the
type outside has been taken along. -/
def within : Nat → Reader (SqlType × Bool)
  | 0 => mismatch
  | fuel + 1 => do
    let named : Reader String := do
      let n ← name
      let (type, isClosed) ← within fuel
      if isClosed then mismatch else return n.spelling ++ " " ++ type.text
    let fields (key : String) : Reader (SqlType × Bool) := do
      skip
      let parts ← inParens (separated named)
      return (⟨.known, key ++ "(" ++ ", ".intercalate parts ++ ")"⟩, false)
    let key ← match ← peek with
      | some (.word _ key) => pure key
      | _ => mismatch
    let compound ← inDialects [.duckdb]
    let (type, isClosed) ← do
      if key = "INTERVAL" then
        skip
        pure (⟨.interval, key⟩, false)
      else if key = "ARRAY" then
        skip
        symbol "<"
        let (items, isClosed) ← within fuel
        pure (⟨.known, "ARRAY<" ++ items.text ++ ">"⟩, ← closingBracket isClosed)
      else if compound && (key = "STRUCT" || key = "UNION") then fields key
      else match knownText? key with
        | some p =>
          skip
          pure (⟨.known, ← p⟩, false)
        | none => pure (⟨.custom, ← customText⟩, false)
    let suffix ← arraySuffix
    return (⟨if suffix = "" then type.kind else .known, type.text ++ suffix⟩, isClosed)

def reader : Reader SqlType := do
  let (type, isClosed) ← within (← bound)
  if isClosed then mismatch else return type

def tree : Reader Tree := do return .word (← reader).text

end SqlType

end TriplesSql.Select
