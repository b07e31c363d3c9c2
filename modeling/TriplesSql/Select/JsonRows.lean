import TriplesSql.Select.Operand

namespace TriplesSql.Select

open Reader

def tryFallback : Reader (Option (List Tree)) := do
  let what ← match ← tryOneOf ["NULL", "ERROR", "DEFAULT"] with
    | none => return none
    | some "DEFAULT" => pure [.word "DEFAULT", ← value]
    | some key => pure [.word key]
  keyword "ON"
  return some what

def tryCellRule : Reader (Option (Bool × List Tree)) := do
  match ← tryFallback with
  | none => return none
  | some what =>
    let missing ← tryKeyword "EMPTY"
    if !missing then keyword "ERROR"
    return some (missing, what)

/-- The rules for cells without a value. Of two rules for the same case the last one counts. -/
def cellRules : Reader (List Tree) := do
  let found := (← many tryCellRule).reverse
  let rule (missing : Bool) (word : String) : List Tree :=
    match found.lookup missing with
    | some what => what ++ [.word word]
    | none => []
  return rule true "ON EMPTY" ++ rule false "ON ERROR"

/-- A column of rows made of JSON: a cell at a path, the number of the row, or columns of rows that
stand inside the row. The fuel bounds how deep rows stand inside each other. -/
def jsonColumn : Nat → Reader Tree
  | 0 => mismatch
  | fuel + 1 => do
    if ← tryKeyword "NESTED" then
      let _ ← tryKeyword "PATH"
      let path ← value
      keyword "COLUMNS"
      let columns ← inParens (separated (jsonColumn fuel))
      return .spaced .clause
        [.word "NESTED PATH", path, .word "COLUMNS", .parenthesizedList columns]
    else
      let n ← nameTree
      if ← tryKeywords ["FOR"] then
        keyword "ORDINALITY"
        return .spaced .clause [n, .word "FOR ORDINALITY"]
      else
        let type ← SqlType.tree
        let tested := if ← tryKeyword "EXISTS" then [Tree.word "EXISTS"] else []
        keyword "PATH"
        let path ← value
        return .spaced .clause (n :: type :: tested ++ .word "PATH" :: path :: (← cellRules))

def typedColumn : Reader Tree := do
  let n ← nameTree
  let type ← SqlType.tree
  let path ← match ← peek with
    | some (.string .plain s) =>
      skip
      pure [Tree.leaf .literal (between '\'' s)]
    | _ => pure []
  let whole ← if ← tryKeyword "AS" then
      keyword "JSON"
      pure [Tree.word "AS JSON"]
    else pure []
  return .spaced .clause (n :: type :: path ++ whole)

namespace Rules

variable (rules : Rules)

def jsonTable : Reader Tree := do
  let e ← rules.expression
  symbol ","
  let path ← value
  keyword "COLUMNS"
  let columns ← inParens do separated (jsonColumn (← bound))
  symbol ")"
  let columns : Tree := .tight .call [.word "COLUMNS", .parenthesizedList columns]
  withTableAlias (.keywordCall "JSON_TABLE" [.listed [e, .spaced .clause [path, columns]]])

def openedJson : Reader Tree := do
  let arguments ← inParens do
    let e ← rules.expression
    if ← trySymbol "," then return [e, ← value] else return [e]
  let columns ← match ← behind "WITH" (inParens (separated typedColumn)) with
    | some columns => pure [.word "WITH", .parenthesizedList columns]
    | none => pure []
  withTableAlias (.spaced .table (.keywordCall "OPENJSON" [.listed arguments] :: columns))

end Rules

end TriplesSql.Select
