import TriplesSql.Dialect

namespace TriplesSql

inductive Keyword where
  | select
  | from
  | where
  | and
  | as
  | on
  | join
  | left
  deriving DecidableEq, Repr

def Keyword.text : Keyword → String
  | .select => "SELECT"
  | .from => "FROM"
  | .where => "WHERE"
  | .and => "AND"
  | .as => "AS"
  | .on => "ON"
  | .join => "JOIN"
  | .left => "LEFT"

/-- One piece of a written statement. -/
inductive Token where
  | keyword (k : Keyword)
  | comma
  | dot
  | star
  | lparen
  | rparen
  | equals
  | space
  | newline
  | indent (depth : Nat)
  | name (s : String)
  | qualified (schema : Option String) (s : String)
  | integer (n : Int)
  | string (s : String)
  | boolean (b : Bool)
  | verbatim (s : String)
  deriving DecidableEq, Repr

namespace Token

def render (d : Dialect) : Token → String
  | .keyword k => k.text
  | .comma => ","
  | .dot => "."
  | .star => "*"
  | .lparen => "("
  | .rparen => ")"
  | .equals => "="
  | .space => " "
  | .newline => "\n"
  | .indent depth => String.ofList (List.replicate (2 * depth) ' ')
  | .name s => d.quoteName s
  | .qualified none s => d.quoteName s
  | .qualified (some schema) s => d.quoteName schema ++ "." ++ d.quoteName s
  | .integer n => toString n
  | .string s => d.quoteString s
  | .boolean b => d.booleanText b
  | .verbatim s => s

def renderAll (d : Dialect) (ts : List Token) : String :=
  String.join (ts.map (render d))

end Token

end TriplesSql
