import TriplesSql.Text.Digits
import TriplesSql.Toml.Value

/-!
# Reading TOML: blanks, strings and keys

A reader takes characters from the front of a text and gives a value and the rest, or fails. Control
characters other than the tab stand nowhere in a text but in line ends.
-/

namespace TriplesSql.Toml

/-- A rule of the grammar. -/
abbrev Reader := StateT (List Char) Option

namespace Reader

def startsWith (cs : List Char) : Reader Bool := do return cs.isPrefixOf (← get)

def tryTake (cs : List Char) : Reader Bool := do
  if ← startsWith cs then
    modify (List.drop cs.length)
    return true
  else return false

def take (cs : List Char) : Reader Unit := do
  if ← tryTake cs then return () else failure

def next : Reader Char := fun cs =>
  match cs with
  | [] => none
  | c :: cs => some (c, cs)

def takeWhile (p : Char → Bool) : Reader (List Char) := fun cs => some (cs.span p)

def manyWithin {α : Type} (p : Reader (Option α)) : Nat → Reader (List α)
  | 0 => return []
  | fuel + 1 => do
    match ← p with
    | none => return []
    | some a => return a :: (← manyWithin p fuel)

/-- Applies a rule as long as it gives a value. Such a rule takes a character for each value, so one
round more than there are characters left is enough. -/
def many {α : Type} (p : Reader (Option α)) : Reader (List α) := do
  manyWithin p ((← get).length + 1)

def isPlain (c : Char) : Bool := c == '\t' || (0x20 ≤ c.toNat && c.toNat != 0x7F)

def blanks : Reader Unit := do
  let _ ← takeWhile fun c => c == ' ' || c == '\t'

def tryLineEnd : Reader Bool := do
  if ← tryTake ['\n'] then return true
  tryTake ['\r', '\n']

def comment : Reader Unit := do
  if ← tryTake ['#'] then
    let _ ← takeWhile isPlain

def restOfLine : Reader Unit := do
  blanks
  comment
  if ← tryLineEnd then return ()
  if (← get).isEmpty then return () else failure

def gap : Reader Unit := do
  let _ ← many do
    blanks
    comment
    return if ← tryLineEnd then some () else none

def charOf? (n : Nat) : Option Char := if n.isValidChar then some (Char.ofNat n) else none

def namedChar (count : Nat) : Reader Char := do
  let ds := (← get).take count
  modify (List.drop count)
  if ds.length ≠ count then failure
  match (Text.Hexadecimal.number? ds).bind charOf? with
  | some c => return c
  | none => failure

def escaped : Reader Char := do
  match ← next with
  | 'b' => return '\x08'
  | 't' => return '\t'
  | 'n' => return '\n'
  | 'f' => return '\x0c'
  | 'r' => return '\r'
  | 'e' => return '\x1b'
  | '"' => return '"'
  | '\\' => return '\\'
  | 'x' => namedChar 2
  | 'u' => namedChar 4
  | 'U' => namedChar 8
  | _ => failure

def basicString : Reader String := do
  let cs ← many do
    if ← tryTake ['"'] then return none
    let c ← next
    if c = '\\' then return some (← escaped)
    else if isPlain c then return some c
    else failure
  return String.ofList cs

def literalString : Reader String := do
  let cs ← takeWhile fun c => isPlain c && c != '\''
  take ['\'']
  return String.ofList cs

def lineEndText : Reader (Option (List Char)) := do
  if ← tryTake ['\n'] then return some ['\n']
  if ← tryTake ['\r', '\n'] then return some ['\r', '\n']
  return none

/-- Takes three quotes that end a string, if they come next. Up to two quotes in front of them
belong to the string. -/
def tryEnd (quote : Char) : Reader (Option (List Char)) := do
  let run := (← get).takeWhile (· == quote)
  if run.length < 3 then return none
  let extra := min (run.length - 3) 2
  modify (List.drop (3 + extra))
  return some (List.replicate extra quote)

def longParts (quote : Char) (part : Reader (List Char)) : Nat → Reader (List Char)
  | 0 => failure
  | fuel + 1 => do
    match ← tryEnd quote with
    | some cs => return cs
    | none =>
      let cs ← part
      return cs ++ (← longParts quote part fuel)

def tryJoin : Reader Bool := do
  let before ← get
  if ← tryTake ['\\'] then
    blanks
    if ← tryLineEnd then
      let _ ← many do
        blanks
        return if ← tryLineEnd then some () else none
      return true
    set before
  return false

def basicPart : Reader (List Char) := do
  if ← tryJoin then return []
  match ← lineEndText with
  | some cs => return cs
  | none =>
    let c ← next
    if c = '\\' then return [← escaped]
    else if isPlain c then return [c]
    else failure

def literalPart : Reader (List Char) := do
  match ← lineEndText with
  | some cs => return cs
  | none =>
    let c ← next
    if isPlain c then return [c] else failure

/-- Reads a string over several lines behind its opening quotes. A line end at its front does not
count. -/
def longString (quote : Char) (part : Reader (List Char)) : Reader String := do
  let _ ← tryLineEnd
  let cs ← longParts quote part ((← get).length + 1)
  return String.ofList cs

def tryString : Reader (Option String) := do
  if ← tryTake ['"', '"', '"'] then return some (← longString '"' basicPart)
  if ← tryTake ['\'', '\'', '\''] then return some (← longString '\'' literalPart)
  if ← tryTake ['"'] then return some (← basicString)
  if ← tryTake ['\''] then return some (← literalString)
  return none

def isBare (c : Char) : Bool := c.isAlphanum || c == '_' || c == '-'

def simpleKey : Reader String := do
  if ← tryTake ['"'] then basicString
  else if ← tryTake ['\''] then literalString
  else
    let cs ← takeWhile isBare
    if cs.isEmpty then failure else return String.ofList cs

structure Key where
  path : List String
  last : String
  deriving Repr

def partLimit : Nat := 80

def key : Reader Key := do
  let first ← simpleKey
  let others ← many do
    blanks
    if ← tryTake ['.'] then
      blanks
      return some (← simpleKey)
    else return none
  if partLimit < others.length + 1 then failure
  return ⟨(first :: others).dropLast, others.getLastD first⟩

end Reader

end TriplesSql.Toml
