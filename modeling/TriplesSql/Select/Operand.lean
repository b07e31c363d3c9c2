import TriplesSql.Select.KeywordPhrase

namespace TriplesSql.Select

open Reader

namespace Rules

variable (rules : Rules)

/-- A literal with its type in front, or a length of time. A type of the database cannot stand in
front of a literal. -/
def typedLiteral : Reader Tree := do
  let type ← SqlType.reader
  match type.kind with
  | .interval => rules.interval
  | .known =>
    return .spaced .literal [.word type.text, .leaf .literal (between '\'' (← literalText))]
  | .custom => mismatch

def partBehindPoint : Reader Tree := do
  let t ← next
  match part? t with
  | some n => return n
  | none => if t = .symbol "*" ∧ (← inDialects [.postgres]) then return star else mismatch

def partsBehindPoints : Nat → Reader (List Tree)
  | 0 => return []
  | fuel + 1 => do
    if ← trySymbol "." then
      let n ← partBehindPoint
      if n.phrase = .wildcard then return [n] else return n :: (← partsBehindPoints fuel)
    else return []

def nameOrCall (first : Name) : Reader Tree := do
  let parts ← partsBehindPoints (← bound)
  let whole : Tree := if parts.isEmpty then first.tree else .node .name "." (first.tree :: parts)
  if (parts.getLast?.map Tree.phrase) = some .wildcard then return whole
  else if ← atSymbol "(" then
    if ← inDialects [.tsql] <&&> trySymbols ["(", "+", ")"] then
      return .spaced .operation [whole, .sign "(+)"]
    else rules.call whole
  else
    match ← peek with
    | some (.string kind s) =>
      if parts.isEmpty && first.text.startsWith "_"
          && [StringKind.plain, .doubleQuoted, .hex].contains kind then
        skip
        return .spaced .literal [.word first.text, .leaf .literal (kind.spelling s)]
      else return whole
    | _ => return whole

def methodCall : Reader (Option Tree) := do
  if ← trySymbol "." then
    match ← next with
    | .word n _ => return some (← rules.call n.tree)
    | _ => mismatch
  else return none

def withMethods (t : Tree) : Reader Tree := do
  if ← inDialects [.tsql] then
    match ← attempt (many rules.methodCall) with
    | some (c :: calls) => return .node .call "." (t :: c :: calls)
    | _ => return t
  else return t

/-- What stands between parentheses behind the opening one: a query, an expression, or a row of
expressions. A field of a row may be taken. -/
def parenthesis : Reader Tree := do
  let content ← if ← atQuery then pure (.parenthesized .subquery (← rules.query))
    else pure (.parenthesized .group (← rules.expressions))
  symbol ")"
  let whole ← rules.withMethods content
  if ← trySymbol "." then
    match ← next with
    | .word n _ => return .node .name "." [whole, n.tree]
    | _ => mismatch
  else return whole

def signed (s : String) (binding : Binding) : Reader Tree := do
  return .tight .operation [.sign s, ← rules.above (binding.level (← read).dialect)]

def braces : Reader Tree := do
  let marked ← attempt do
    keyword "FN"
    rules.call (← qualifiedName)
  match marked with
  | some c =>
    symbol "\x7d"
    return .tight .call [.sign "\x7bfn ", c, .sign "\x7d"]
  | none => if ← inDialects [.duckdb] then rules.record else mismatch

def symbolOperand (s : String) : Reader Tree := do
  let postgres ← inDialects [.postgres]
  match s with
  | "[" => rules.items
  | "(" => rules.parenthesis
  | "\x7b" => rules.braces
  | "+" | "-" => rules.signed s .times
  | "!!" | "|/" | "||/" | "~" => if postgres then rules.signed s .plus else mismatch
  | "@" => if postgres then rules.signed s .plus else signedPlaceholder s
  | ":" => signedPlaceholder s
  | _ => mismatch

/-- An operand that begins with a word: the phrase that the word announces or, where it announces
none or its phrase fails, a name. The flag says whether more may stand behind the operand. -/
def wordOperand (n : Name) (key : String) : Reader (Tree × Bool) := do
  let announced : Reader (Option (Tree × Bool)) := do
    return (← rules.announced n key).map (·, true)
  let found ← if neverNames.contains key then announced
    else orElse announced do return some (← rules.nameOrCall n, false)
  match found with
  | some operand => return operand
  | none => return (← rules.nameOrCall n, true)

def plainOperand : Reader (Tree × Bool) := do
  match ← next with
  | .word n key => rules.wordOperand n key
  | .number s long => return (.leaf .literal (numberSpelling s long), true)
  | .string .escaped s =>
    if ← inDialects [.postgres] then
      return (.leaf .literal (StringKind.escaped.spelling s), true)
    else mismatch
  | .string kind s => return (.leaf .literal (kind.spelling s), true)
  | .placeholder s => return (.leaf .literal s, true)
  | .symbol s => return (← rules.symbolOperand s, true)
  | .operator _ => mismatch

def operandRule : Reader Tree := do
  match ← attempt rules.typedLiteral with
  | some t => return t
  | none =>
    let (t, mayGoOn) ← rules.plainOperand
    if mayGoOn then
      let whole ← rules.withMethods t
      if ← tryKeyword "COLLATE" then
        return .spaced .operation [whole, .word "COLLATE", ← qualifiedName]
      else return whole
    else return t

end Rules

end TriplesSql.Select
