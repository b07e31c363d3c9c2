import TriplesSql.Text.Digits
import TriplesSql.Select.Keyword
import TriplesSql.Select.Reader

namespace TriplesSql.Select

open Reader

def signedPlaceholder (s : String) : Reader Tree := do
  match ← next with
  | .word n _ => return .leaf .literal (s ++ n.text)
  | .number m false => return .leaf .literal (s ++ m)
  | _ => mismatch

/-- A value: a string, a number, a placeholder, a truth value where the dialect has them, or the
missing value. A name between double quotes counts as a string. -/
def value : Reader Tree := do
  match ← next with
  | .word n key =>
    if key = "NULL" then return .leaf .literal "NULL"
    else if key = "TRUE" ∨ key = "FALSE" then
      if ← inDialects [.tsql] then mismatch
      else return .leaf .literal (if key = "TRUE" then "true" else "false")
    else if n.quote = some '"' then return .leaf .literal (between '"' n.text)
    else mismatch
  | .number s long => return .leaf .literal (numberSpelling s long)
  | .string kind s => return .leaf .literal (kind.spelling s)
  | .placeholder s => return .leaf .literal s
  | .symbol ":" => signedPlaceholder ":"
  | .symbol "@" => signedPlaceholder "@"
  | _ => mismatch

def number : Reader Tree := do
  match ← next with
  | .number s long => return .leaf .literal (numberSpelling s long)
  | _ => mismatch

def unsignedNumber : Reader Tree := do
  match ← next with
  | .number s long => return .leaf .literal (numberSpelling s long)
  | .placeholder s => return .leaf .literal s
  | .symbol ":" => signedPlaceholder ":"
  | .symbol "@" => signedPlaceholder "@"
  | _ => mismatch

def signedNumber : Reader Tree := do
  let front ← if ← trySymbol "+" then pure "+" else if ← trySymbol "-" then pure "-" else pure ""
  return .leaf .literal (front ++ (← unsignedNumber).text)

/-- The text of a literal behind a type or a keyword. A word without a meaning of its own counts as
one. -/
def literalText : Reader String := do
  match ← next with
  | .word n key => if isKeyword key then mismatch else return n.text
  | .string .plain s | .string .doubleQuoted s => return s
  | .string .escaped s => if ← inDialects [.postgres] then return s else mismatch
  | .string .unicode s => return s
  | _ => mismatch

def count : Reader Nat := do
  match ← next with
  | .number s _ =>
    let n := Text.Decimal.valueOf s.toList
    if s.toList.all Char.isDigit && n < Nat.pow 2 64 then return n else mismatch
  | _ => mismatch

def countTree : Reader Tree := do return .leaf .literal (toString (← count))

def temporalUnits : List String :=
  ["YEAR", "MONTH", "WEEK", "DAY", "HOUR", "MINUTE", "SECOND", "CENTURY", "DECADE", "DOW", "DOY",
    "EPOCH", "ISODOW", "ISOYEAR", "JULIAN", "MICROSECOND", "MICROSECONDS", "MILLENIUM",
    "MILLENNIUM", "MILLISECOND", "MILLISECONDS", "NANOSECOND", "NANOSECONDS", "QUARTER",
    "TIMEZONE", "TIMEZONE_HOUR", "TIMEZONE_MINUTE"]

def otherFields : List String :=
  ["DAYOFWEEK", "DAYOFYEAR", "DATE", "DATETIME", "ISOWEEK", "TIME", "TIMEZONE_ABBR",
    "TIMEZONE_REGION"]

def dateField : Reader String := do
  let anyName ← inDialects [.postgres]
  match ← next with
  | .word n key =>
    if temporalUnits.contains key || otherFields.contains key then return key
    else if anyName then return n.spelling
    else mismatch
  | .string .plain s => if anyName then return between '\'' s else mismatch
  | _ => mismatch

end TriplesSql.Select
