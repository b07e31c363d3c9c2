import TriplesSql.Select.Reader

/-!
# How tight operators bind

Each operator binds at the level of its kind, and the levels differ between dialects. An operand is
extended by the operators that bind tighter than the level it is read at.
-/

namespace TriplesSql.Select

inductive Binding where
  | bracket
  | cast
  | collation
  | zone
  | times
  | plus
  | xor
  | ampersand
  | caret
  | pipe
  | between
  | equals
  | like
  | is
  | other
  | not
  | and
  | or
  deriving DecidableEq, Repr

namespace Binding

def level (d : Dialect) : Binding → Nat
  | bracket => if d = .postgres then 130 else 50
  | cast => if d = .postgres then 140 else 50
  | collation => if d = .postgres then 120 else 0
  | zone => if d = .postgres then 110 else 41
  | times => if d = .postgres then 90 else 40
  | plus => if d = .postgres then 80 else 30
  | xor => if d = .postgres then 75 else 24
  | ampersand => if d = .postgres then 70 else 23
  | caret => if d = .postgres then 100 else 22
  | pipe => if d = .postgres then 70 else 21
  | between => if d = .postgres then 60 else 20
  | equals => if d = .postgres then 50 else 20
  | like => if d = .postgres then 60 else 19
  | is => if d = .postgres then 40 else 17
  | other => if d = .postgres then 70 else 16
  | not => if d = .postgres then 30 else 15
  | and => if d = .postgres then 20 else 10
  | or => if d = .postgres then 10 else 5

def ofTest? (key : String) : Option Binding :=
  match key with
  | "IN" | "BETWEEN" => some between
  | "LIKE" | "ILIKE" | "RLIKE" | "REGEXP" | "SIMILAR" => some like
  | _ => none

def ofWord? (key : String) : Option Binding :=
  match key with
  | "OR" => some or
  | "AND" => some and
  | "XOR" => some xor
  | "IS" => some is
  | "OPERATOR" => some between
  | "DIV" => some times
  | "COLLATE" => some collation
  | _ => ofTest? key

def comparisons : List String :=
  ["=", "<", "<=", "<>", ">", ">=", "==", "<=>", "~", "~*", "!~", "!~*", "~~", "~~*", "!~~", "!~~*"]

def ofSymbol? (d : Dialect) (s : String) : Option Binding :=
  let postgresOther (b : Binding) := if d = .postgres then other else b
  if comparisons.contains s then some equals
  else match s with
  | "*" | "/" | "//" | "%" => some times
  | "+" | "-" => some plus
  | "||" => some (postgresOther times)
  | "|" => some pipe
  | "^" => some caret
  | "#" | "<<" | ">>" => some (postgresOther caret)
  | "&" => some ampersand
  | "::" => some cast
  | "[" => some bracket
  | "!" | "&&" | "^@" => some (postgresOther cast)
  | "->" | "->>" | "#>" | "#>>" | "#-" | "@>" | "<@" | "@?" | "@@" | "?" | "?|" | "?&" => some other
  | _ => none

def next? (d : Dialect) (ts : List Lexeme) : Option Binding :=
  match ts with
  | .symbol s :: _ => ofSymbol? d s
  | .operator _ :: _ => some other
  | t :: rest =>
    match Reader.keyOf (some t) with
    | "NOT" => ofTest? (Reader.keyOf rest.head?)
    | "AT" =>
      if (rest.take 2).map (fun t => Reader.keyOf (some t)) = ["TIME", "ZONE"] then some zone
      else none
    | key => ofWord? key
  | [] => none

/-- The level at which the next lexeme continues an expression; zero if it does not. -/
def nextLevel (d : Dialect) (ts : List Lexeme) : Nat := ((next? d ts).map (level d)).getD 0

end Binding

end TriplesSql.Select
