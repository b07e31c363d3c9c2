import TriplesSql.Select.Operand

namespace TriplesSql.Select

open Reader

def binary? (d : Dialect) (s : String) : Option String :=
  match s with
  | "==" => some "="
  | "//" => if d = .duckdb then some s else none
  | "<<" | ">>" => if d = .postgres ∨ d = .duckdb then some s else none
  | "#" | "&&" | "^@" => if d = .postgres then some s else none
  | "!" | "[" | "::" => none
  | _ => some s

def comparesMany (operator : String) : Bool :=
  ["=", "<>", "<", "<=", ">", ">="].contains operator

def namedOperator : Reader String := inParens do
  let first ← next
  let others ← many do
    if ← trySymbol "." then return some (← next) else return none
  return "OPERATOR(" ++ ".".intercalate ((first :: others).map Lexeme.literal) ++ ")"

def tryEscape : Reader (List Tree) := do
  if ← tryKeyword "ESCAPE" then
    return [.word "ESCAPE", .leaf .literal ("'" ++ (← literalText) ++ "'")]
  else return []

namespace Rules

variable (rules : Rules) (level : Nat) (l : Tree)

def comparison (operator quantifier : String) : Reader Tree := do
  let whole := (← get).drop 1
  symbol "("
  let r ← if ← atQuery then
      set (Lexeme.symbol "(" :: whole)
      rules.above level
    else
      let r ← rules.above level
      symbol ")"
      pure r
  if comparesMany operator then
    let many := if r.phrase = .subquery then r else .parenthesized .subquery r
    return .spaced .operation [l, .sign operator, .tight .call [.word quantifier, many]]
  else mismatch

def binary (operator : String) : Reader Tree := do
  match ← tryOneOf ["ANY", "ALL", "SOME"] with
  | none => return .infixed l operator (← rules.above level)
  | some quantifier => rules.comparison level l operator quantifier

def isTest : Reader Tree := do
  let words := if ← tryKeyword "NOT" then "IS NOT" else "IS"
  match ← tryOneOf ["NULL", "TRUE", "FALSE", "UNKNOWN"] with
  | some what => return .spaced .operation [l, .word words, .word what]
  | none =>
    keywords ["DISTINCT", "FROM"]
    return .spaced .operation [l, .word words, .word "DISTINCT FROM", ← rules.expression]

def membership (words : List Tree) : Reader Tree := do
  if ← tryKeyword "UNNEST" then
    let array ← inParens rules.expression
    return .spaced .operation (l :: words ++ [.keywordCall "UNNEST" [array]])
  else
    let items ← inParens do if ← atQuery then rules.query else rules.expressions
    return .spaced .operation (l :: words ++ [.parenthesized .list items])

def bounds (words : List Tree) : Reader Tree := do
  let between := Binding.between.level (← read).dialect
  let low ← rules.above between
  keyword "AND"
  return .spaced .operation (l :: words ++ [low, .word "AND", ← rules.above between])

def pattern : Reader Tree := do rules.above (Binding.like.level (← read).dialect)

/-- A pattern or some patterns, and the character that escapes in it. The word for some patterns
stands close to them if the case does not count and a character escapes. -/
def patterns (words : List Tree) (caseless : Bool) : Reader Tree := do
  let any ← tryKeyword "ANY"
  let r ← rules.pattern
  let escape ← tryEscape
  let patterns : List Tree :=
    if !any then [r]
    else if caseless && !escape.isEmpty then [.tight .clause [.word "ANY", r]]
    else [.word "ANY", r]
  return .spaced .operation (l :: words ++ patterns ++ escape)

/-- The word for a test with a regular expression, if one comes next. Behind the first of the two
words the second one may stand without a meaning. -/
def tryRegular : Reader (Option String) := do
  let regexp ← tryKeyword "REGEXP"
  let rlike ← tryKeyword "RLIKE"
  return if regexp then some "REGEXP" else if rlike then some "RLIKE" else none

def test : Reader Tree := do
  let not := if ← tryKeyword "NOT" then [Tree.word "NOT"] else []
  if let some key ← tryRegular then
    return .spaced .operation (l :: not ++ [.word key, ← rules.pattern])
  let key ← oneOf ["IN", "BETWEEN", "LIKE", "ILIKE", "SIMILAR"]
  let words := not ++ [.word key]
  match key with
  | "IN" => rules.membership l words
  | "BETWEEN" => rules.bounds l words
  | "LIKE" => rules.patterns l words false
  | "ILIKE" => rules.patterns l words true
  | _ =>
    keyword "TO"
    let r ← rules.pattern
    return .spaced .operation (l :: words ++ .word "TO" :: r :: (← tryEscape))

def tryBound : Reader (List Tree) := do
  if ← atSymbol "]" then return [] else return [← rules.expression]

def rangeEnd : Reader (List Tree) := do
  let high ← rules.tryBound
  if !high.isEmpty && !(← atSymbol "]") then
    symbol ":"
    let step ← rules.tryBound
    return .sign ":" :: high ++ (if step.isEmpty then [] else .sign ":" :: step)
  else return .sign ":" :: high

def subscript : Reader Tree := do
  let ranges ← inDialects [.postgres, .duckdb]
  let parts ← if ← pure ranges <&&> trySymbol ":" then rules.rangeEnd
    else do
      let low ← rules.expression
      if ranges && !(← atSymbol "]") then
        symbol ":"
        pure (low :: (← rules.rangeEnd))
      else pure [low]
  symbol "]"
  return .tight .operation (l :: .sign "[" :: parts ++ [.sign "]"])

def wordOperator (key : String) : Reader Tree := do
  match key with
  | "AND" | "OR" | "XOR" => rules.binary level l key
  | "OPERATOR" =>
    if ← inDialects [.postgres] then rules.binary level l (← namedOperator) else mismatch
  | "DIV" => if ← inDialects [.mysql] then return .infixed l key (← rules.expression) else mismatch
  | "IS" => rules.isTest l
  | "AT" =>
    keywords ["TIME", "ZONE"]
    return .spaced .operation [l, .word "AT TIME ZONE", ← rules.above level]
  | _ => mismatch

def symbolOperator (s : String) : Reader Tree := do
  match s with
  | "::" => return .tight .operation [l, .sign s, ← SqlType.tree]
  | "[" => rules.subscript l
  | "!" => if ← inDialects [.postgres] then return .tight .operation [l, .sign s] else mismatch
  | _ =>
    match binary? (← read).dialect s with
    | some operator => rules.binary level l operator
    | none => mismatch

def operator : Reader Tree := do
  if (Binding.ofTest? (← peekKey)).isSome || (← peekKey) = "NOT" then rules.test l
  else match ← next with
    | .symbol s => rules.symbolOperator level l s
    | .operator s => rules.binary level l s
    | .word _ key => rules.wordOperator level l key
    | _ => mismatch

end Rules

def Rules.extendWithin (rules : Rules) (level : Nat) : Nat → Tree → Reader Tree
  | 0, l => return l
  | fuel + 1, l => do
    let found := Binding.nextLevel (← read).dialect (← get)
    if found ≤ level then return l
    else extendWithin rules level fuel (← rules.operator found l)

/-- An expression whose operators bind tighter than a level. Each operator takes a lexeme. -/
def Rules.expressionRule (rules : Rules) (level : Nat) : Reader Tree := do
  let l ← rules.operandRule
  rules.extendWithin level (← bound) l

end TriplesSql.Select
