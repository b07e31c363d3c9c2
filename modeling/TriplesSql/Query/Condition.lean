import TriplesSql.Query.Token

namespace TriplesSql

inductive Literal where
  | integer (n : Int)
  | string (s : String)
  | boolean (b : Bool)
  deriving DecidableEq, Repr

inductive Operator where
  | equals
  | and
  deriving DecidableEq, Repr

inductive Condition where
  | column (table : Option String) (name : String)
  | literal (l : Literal)
  | binary (op : Operator) (left right : Condition)
  | paren (inner : Condition)
  deriving DecidableEq, Repr

def Literal.token : Literal → Token
  | .integer n => .integer n
  | .string s => .string s
  | .boolean b => .boolean b

def Operator.token : Operator → Token
  | .equals => .equals
  | .and => .keyword .and

namespace Condition

def columnOf (table name : String) : Condition := .column (some table) name

def truth (b : Bool) : Condition := .literal (.boolean b)

def eq (l r : Condition) : Condition := .binary .equals l r

def both (l r : Condition) : Condition := .binary .and l r

/-- All conditions of a list hold, associated to the left; nothing for the empty list. -/
def conjunction : List Condition → Option Condition
  | [] => none
  | c :: cs => some (cs.foldl both c)

/-- The conjunction of a list, which is the true condition when the list is empty. -/
def allOf (cs : List Condition) : Condition := (conjunction cs).getD (truth true)

def isTrue : Condition → Bool
  | .literal (.boolean b) => b
  | _ => false

def tokens : Condition → List Token
  | .column none name => [.name name]
  | .column (some table) name => [.name table, .dot, .name name]
  | .literal l => [l.token]
  | .binary op l r => l.tokens ++ [.space, op.token, .space] ++ r.tokens
  | .paren inner => .lparen :: inner.tokens ++ [.rparen]

/-- The tokens of an expression that stands as a whole search condition. Where a truth value may
not stand alone it becomes a comparison of one with one or zero. -/
def searchTokens (d : Dialect) : Condition → List Token
  | .literal (.boolean b) =>
    if d.allowsBareBoolean then (truth b).tokens
    else (eq (.literal (.integer 1)) (.literal (.integer (if b then 1 else 0)))).tokens
  | c => c.tokens

end Condition

end TriplesSql
