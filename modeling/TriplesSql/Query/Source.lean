import TriplesSql.Query.Condition
import TriplesSql.Select.Statement

/-!
# Row sources

What a written query reads its rows from: a table, a query that has been read, or query text that
could not be read and is written as it stands. Such a text may end in a semicolon: reading it as a
statement needs one, and nesting it between parentheses needs none.
-/

namespace TriplesSql

structure TableName where
  schema : Option String
  table : String
  deriving DecidableEq, Repr

namespace TableName

def splitAtPoint (inQuotes : Bool) : List Char → Option (List Char × List Char)
  | [] => none
  | c :: cs =>
    if c = '.' ∧ inQuotes = false then some ([], cs)
    else
      (splitAtPoint (if c = '"' then !inQuotes else inQuotes) cs).map fun (front, back) =>
        (c :: front, back)

/-- Reads `table` or `schema.table`, where each part may be delimited by double quotes. -/
def ofText (s : String) : TableName :=
  match splitAtPoint false s.toList with
  | some (schema, table) =>
    ⟨some (Text.unquote (String.ofList schema)), Text.unquote (String.ofList table)⟩
  | none => ⟨none, Text.unquote s⟩

def tokens (t : TableName) : List Token := [.qualified t.schema t.table]

end TableName

namespace Terminator

def ensure (sql : String) : String :=
  let cs := Text.dropEndWhile Text.isBlank sql.toList
  String.ofList (if cs.getLast? = some ';' then cs else cs ++ [';'])

def strip (sql : String) : String :=
  String.ofList (Text.dropEndWhile Text.isBlank (Text.dropEndWhile (· == ';')
    (Text.dropEndWhile Text.isBlank sql.toList)))

def lastLine (cs : List Char) : List Char :=
  (cs.reverse.takeWhile (· != '\n')).reverse

def hasCommentMark : List Char → Bool
  | '-' :: '-' :: _ => true
  | _ :: cs => hasCommentMark cs
  | [] => false

/-- Whether the last line of the stripped text has a comment mark, so that text written after it on
the same line could be part of a comment. -/
def endsInLineComment (sql : String) : Bool :=
  hasCommentMark (lastLine (strip sql).toList)

end Terminator

/-- What rows are read from. The text of an unread query keeps its terminator. -/
inductive RowSource where
  | table (name : TableName)
  | query (t : Select.Tree)
  | text (sql : String)
  deriving Repr

namespace RowSource

def tableName? : RowSource → Option String
  | .table name => some name.table
  | _ => none

def isQuery : RowSource → Bool
  | .table _ => false
  | _ => true

/-- The tokens of a source. A query stands between parentheses; behind an unread text that ends in
a line comment the closing one stands on a line of its own. -/
def tokens : RowSource → List Token
  | .table name => name.tokens
  | .query t => [.lparen, .verbatim t.text, .rparen]
  | .text sql =>
    [.lparen, .verbatim (Terminator.strip sql)] ++
      (if Terminator.endsInLineComment sql then [.newline] else []) ++ [.rparen]

end RowSource

end TriplesSql
