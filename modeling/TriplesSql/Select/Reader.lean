import TriplesSql.Dialect
import TriplesSql.Select.Lexeme
import TriplesSql.Select.Tree

/-!
# Reading phrases

A reader takes lexemes from the front of a list and gives a value and the rest, or fails. It knows
the dialect and how deep phrases may still nest. This module holds the steps that all rules of the
grammar share.
-/

namespace TriplesSql.Select

def Name.tree (n : Name) : Tree := .leaf .name n.spelling

/-- What a rule is read with: the dialect, the number of lexemes of the text, the number of
statements, queries and expressions that may still stand inside each other, and whether the links of
a hierarchy are being read. -/
structure Context where
  dialect : Dialect
  size : Nat
  depth : Nat
  inHierarchy : Bool

/-- Why a rule gives no value: the lexemes do not fit it, or its phrases nest too deep. -/
inductive Failure where
  | mismatch
  | tooDeep
  deriving DecidableEq, Repr

abbrev Reader := ReaderT Context (StateT (List Lexeme) (Except Failure))

namespace Reader

variable {α : Type}

def mismatch : Reader α := throw .mismatch

def inDialects (ds : List Dialect) : Reader Bool := do return ds.contains (← read).dialect

/-- A bound for what stands behind a lexeme of its own each time: more than the lexemes of the
text. -/
def bound : Reader Nat := do return (← read).size + 1

def deeper (p : Reader α) : Reader α := fun context ts =>
  if context.depth = 0 then .error .tooDeep
  else p { context with depth := context.depth - 1 } ts

def peek : Reader (Option Lexeme) := do return (← get).head?

def next : Reader Lexeme := fun _ ts =>
  match ts with
  | [] => .error .mismatch
  | t :: ts => .ok (t, ts)

def skip : Reader Unit := modify (List.drop 1)

def keyOf : Option Lexeme → String
  | some (.word _ key) => key
  | _ => ""

def peekKey : Reader String := do return keyOf (← peek)

def atKeywords (keys : List String) : Reader Bool := do
  return ((← get).take keys.length).map (fun t => keyOf (some t)) = keys

def tryKeywords (keys : List String) : Reader Bool := do
  if ← atKeywords keys then
    modify (List.drop keys.length)
    return true
  else return false

def tryKeyword (key : String) : Reader Bool := tryKeywords [key]

def tryOneOf (keys : List String) : Reader (Option String) := do
  let key ← peekKey
  if keys.contains key then
    skip
    return some key
  else return none

def tryRuns (runs : List (List String)) : Reader Bool := runs.anyM tryKeywords

def oneOfRuns (runs : List (List String)) : Reader Unit := do
  if ← tryRuns runs then return () else mismatch

def keywords (keys : List String) : Reader Unit := do
  if ← tryKeywords keys then return () else mismatch

def keyword (key : String) : Reader Unit := keywords [key]

def oneOf (keys : List String) : Reader String := do
  match ← tryOneOf keys with
  | some key => return key
  | none => mismatch

def atSymbol (s : String) : Reader Bool := do return (← peek) = some (.symbol s)

def trySymbol (s : String) : Reader Bool := do
  if ← atSymbol s then
    skip
    return true
  else return false

def trySymbols (ss : List String) : Reader Bool := do
  if (← get).take ss.length = ss.map Lexeme.symbol then
    modify (List.drop ss.length)
    return true
  else return false

def symbol (s : String) : Reader Unit := do
  if ← trySymbol s then return () else mismatch

def atQuery : Reader Bool := do return ["SELECT", "WITH"].contains (← peekKey)

def attempt (p : Reader α) : Reader (Option α) := fun context ts =>
  match p context ts with
  | .ok (a, rest) => .ok (some a, rest)
  | .error .mismatch => .ok (none, ts)
  | .error .tooDeep => .error .tooDeep

/-- Applies a rule and, where it fails for any reason, another one. Where both fail, the reason of
the first one counts. -/
def orElse (p q : Reader α) : Reader α := fun context ts =>
  match p context ts with
  | .ok found => .ok found
  | .error failure =>
    match q context ts with
    | .ok found => .ok found
    | .error _ => .error failure

def manyWithin (p : Reader (Option α)) : Nat → Reader (List α)
  | 0 => return []
  | fuel + 1 => do
    match ← p with
    | none => return []
    | some a => return a :: (← manyWithin p fuel)

/-- Applies a rule as long as it gives a value. Such a rule takes a lexeme for each value. -/
def many (p : Reader (Option α)) : Reader (List α) := do
  manyWithin p (← bound)

def behind (key : String) (p : Reader α) : Reader (Option α) := do
  if ← tryKeyword key then return some (← p) else return none

def behindRuns (runs : List (List String)) (p : Reader Unit) : Reader Unit := do
  if ← tryRuns runs then p

/-- The keywords that do not name a column unless `AS` stands before them. They also end a list
before its next item where a comma may stand behind the last one. -/
def columnAliasStops : List String :=
  ["WITH", "EXPLAIN", "ANALYZE", "SELECT", "WHERE", "GROUP", "SORT", "HAVING", "ORDER", "TOP",
    "LATERAL", "VIEW", "LIMIT", "OFFSET", "FETCH", "UNION", "EXCEPT", "INTERSECT", "CLUSTER",
    "DISTRIBUTE", "FROM", "INTO", "END", "RETURNING"]

/-- Whether the list goes on behind a comma. One dialect allows a comma behind the last item. -/
def continuesList : Reader Bool := do
  if ← trySymbol "," then
    if ← inDialects [.duckdb] then
      match ← peek with
      | none => return false
      | some (.word _ key) => return !columnAliasStops.contains key
      | some (.symbol s) => return !([")", ";", "]", "\x7d"].contains s)
      | _ => return true
    else return true
  else return false

def separated (p : Reader α) : Reader (List α) := do
  let first ← p
  let others ← many do
    if ← continuesList then return some (← p) else return none
  return first :: others

def separatedUnless (closing : String) (p : Reader α) : Reader (List α) := do
  if ← atSymbol closing then return []
  else if (← inDialects [.duckdb])
      && decide ((← get).take 2 = [Lexeme.symbol ",", Lexeme.symbol closing]) then
    skip
    return []
  else separated p

def inParens (p : Reader α) : Reader α := do
  symbol "("
  let a ← p
  symbol ")"
  return a

/-- The name that a lexeme can be read as. A string literal is a name in its quotes. -/
def nameOf? : Lexeme → Option Name
  | .word n _ => some n
  | .string .plain s => some ⟨s, some '\''⟩
  | .string .doubleQuoted s => some ⟨s, some '"'⟩
  | _ => none

def name : Reader Name := do
  match nameOf? (← next) with
  | some n => return n
  | none => mismatch

def nameTree : Reader Tree := do return Name.tree (← name)

def dotted : List Name → Tree
  | [n] => Name.tree n
  | ns => .node .name "." (ns.map Name.tree)

def qualifiedName : Reader Tree := do
  let first ← name
  let others ← many do
    if ← trySymbol "." then return some (← name) else return none
  return dotted (first :: others)

def skipName : Reader Bool := do
  let found := (← peek).bind nameOf?
  skip
  return found.isSome

/-- Takes a name of one or more parts. A lexeme in place of a part that is none is taken too and
ends the name. -/
def skipQualifiedName : Reader Unit := do
  if ← skipName then
    discard (many do
      if ← trySymbol "." <&&> skipName then return some () else return none)

def nameList : Reader Tree := do return .parenthesizedList (← inParens (separated nameTree))

def tryNameList : Reader (List Tree) := do
  if ← atSymbol "(" then return [← nameList] else return []

def tableAliasStops : List String :=
  ["WITH", "EXPLAIN", "ANALYZE", "SELECT", "WHERE", "GROUP", "SORT", "HAVING", "ORDER", "PIVOT",
    "UNPIVOT", "TOP", "LATERAL", "VIEW", "LIMIT", "OFFSET", "FETCH", "UNION", "EXCEPT",
    "INTERSECT", "ON", "JOIN", "INNER", "CROSS", "FULL", "LEFT", "RIGHT", "NATURAL", "USING",
    "CLUSTER", "DISTRIBUTE", "GLOBAL", "OUTER", "SET", "QUALIFY", "WINDOW", "END", "FOR",
    "PARTITION", "PREWHERE", "SETTINGS", "FORMAT", "START", "CONNECT", "MATCH_RECOGNIZE", "ANTI",
    "SEMI"]

def tryAlias (stops : List String) : Reader (Option Tree) := do
  let explicit ← tryKeyword "AS"
  let found := match ← peek with
    | some (.word n key) => if explicit || !stops.contains key then some n else none
    | some t => nameOf? t
    | none => none
  match found with
  | some n =>
    skip
    return some (Name.tree n)
  | none => if explicit then mismatch else return none

end Reader

end TriplesSql.Select
