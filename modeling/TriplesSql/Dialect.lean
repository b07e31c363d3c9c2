import TriplesSql.Text.Quoted

/-!
# SQL dialects

The dialects differ in how they delimit names, write truth values and string literals, and in
whether a truth value may stand alone as a search condition.
-/

namespace TriplesSql

inductive Dialect where
  | postgres
  | mysql
  | tsql
  | duckdb
  deriving DecidableEq, Repr, Inhabited

namespace Dialect

def all : List Dialect := [.postgres, .mysql, .tsql, .duckdb]

def name : Dialect → String
  | .postgres => "postgres"
  | .mysql => "mysql"
  | .tsql => "tsql"
  | .duckdb => "duckdb"

structure Unknown where
  name : String
  deriving DecidableEq, Repr

def Unknown.message (e : Unknown) : String := "Unknown SQL dialect: " ++ e.name

def ofExactName? : String → Option Dialect
  | "postgres" | "postgresql" => some .postgres
  | "mysql" => some .mysql
  | "tsql" | "mssql" | "sqlserver" => some .tsql
  | "duckdb" => some .duckdb
  | _ => none

/-- Reads a dialect name; blanks around it and the case of ASCII letters do not count. -/
def ofName (s : String) : Except Unknown Dialect :=
  let key := String.ofList ((Text.trim s).toList.map Char.toLower)
  match ofExactName? key with
  | some d => .ok d
  | none => .error ⟨key⟩

def delimiters : Dialect → Char × Char
  | .postgres | .duckdb => ('"', '"')
  | .mysql => ('`', '`')
  | .tsql => ('[', ']')

def quoteName (d : Dialect) (s : String) : String :=
  Text.enclose d.delimiters.1 d.delimiters.2 s

def plainString (s : String) : String := Text.enclose '\'' '\'' s

def unicodeString (s : String) : String := "N" ++ plainString s

/-- A string literal. T-SQL marks a string that is not ASCII as Unicode text. -/
def quoteString (d : Dialect) (s : String) : String :=
  if d = .tsql ∧ ¬ s.toList.all (fun c => c.toNat < 128) then unicodeString s else plainString s

def hasBooleanWords : Dialect → Bool
  | .postgres | .duckdb => true
  | .mysql | .tsql => false

def booleanText (d : Dialect) (b : Bool) : String :=
  match d.hasBooleanWords, b with
  | true, true => "true"
  | true, false => "false"
  | false, true => "1"
  | false, false => "0"

/-- Whether a truth value may stand alone as a search condition. -/
def allowsBareBoolean : Dialect → Bool
  | .tsql => false
  | _ => true

end Dialect

end TriplesSql
