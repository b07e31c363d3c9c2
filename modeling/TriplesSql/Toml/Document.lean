import TriplesSql.Toml.Scalar
import TriplesSql.Toml.Table

namespace TriplesSql.Toml

open Reader

def depthLimit : Nat := 80

def scalar : Reader Toml := do
  let (run, rest) := scalarRun (← get)
  set rest
  match scalar? run with
  | some v => return v
  | none => failure

/-- The items of an array behind its opening bracket. Line ends may stand around items, and a comma
may stand behind the last one. The fuel bounds the number of items. -/
def arrayItems (item : Reader Toml) : Nat → Reader (List Toml)
  | 0 => failure
  | fuel + 1 => do
    gap
    if ← tryTake [']'] then return []
    let v ← item
    gap
    if ← tryTake [','] then return v :: (← arrayItems item fuel)
    take [']']
    return [v]

def assignment (space : Reader Unit) (value : Reader Toml) : Reader (Key × Toml) := do
  let k ← key
  space
  take ['=']
  space
  return (k, ← value)

/-- The assignments of an inline table behind its opening brace. Line ends may stand around
assignments and their equals signs, and a comma may stand behind the last one. The fuel bounds their
number. -/
def inlineItems (value : Reader Toml) : Nat → Reader (List (Key × Toml))
  | 0 => failure
  | fuel + 1 => do
    gap
    if ← tryTake ['}'] then return []
    let a ← assignment gap value
    gap
    if ← tryTake [','] then return a :: (← inlineItems value fuel)
    take ['}']
    return [a]

def value : Nat → Reader Toml
  | 0 => do
    match ← tryString with
    | some s => return .string s
    | none => scalar
  | depth + 1 => do
    match ← tryString with
    | some s => return .string s
    | none =>
      if ← tryTake ['['] then
        return .array (← arrayItems (value depth) ((← get).length + 1))
      else if ← tryTake ['{'] then
        match inlineTable? (← inlineItems (value depth) ((← get).length + 1)) with
        | some v => return v
        | none => failure
      else scalar

inductive Line where
  | assign (k : Key) (v : Toml)
  | header (k : Key) (isArray : Bool)

def header (isArray : Bool) : Reader Line := do
  blanks
  let k ← key
  blanks
  take (if isArray then [']', ']'] else [']'])
  return .header k isArray

def line : Reader (Option Line) := do
  gap
  blanks
  comment
  if (← get).isEmpty then return none
  let found ←
    if ← tryTake ['[', '['] then header true
    else if ← tryTake ['['] then header false
    else do
      let (k, v) ← assignment blanks (value depthLimit)
      pure (.assign k v)
  restOfLine
  return some found

def sections : List Line → Section × List Section
  | [] => (⟨none, []⟩, [])
  | .assign k v :: lines =>
    let (first, others) := sections lines
    (⟨none, (k, v) :: first.assignments⟩, others)
  | .header k isArray :: lines =>
    let (first, others) := sections lines
    (⟨none, []⟩, ⟨some (k, isArray), first.assignments⟩ :: others)

/-- Reads a document. A byte order mark in front of it does not count. -/
def ofText? (s : String) : Option (List (String × Toml)) := do
  let cs := match s.toList with
    | '\ufeff' :: cs => cs
    | cs => cs
  let (lines, rest) ← (many line).run cs
  if !rest.isEmpty then none
  let (first, others) := sections lines
  let entries ← (first :: others).foldlM (fun root part => part.addTo root) []
  return Node.entriesToToml entries

end TriplesSql.Toml
