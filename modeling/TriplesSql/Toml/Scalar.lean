import TriplesSql.Text.Digits
import TriplesSql.Toml.Value

namespace TriplesSql.Toml

def plainDigits (isDigit : Char → Bool) : List Char → Option (List Char)
  | [] => none
  | [c] => if isDigit c then some [c] else none
  | c :: '_' :: cs => if isDigit c then (plainDigits isDigit cs).map (c :: ·) else none
  | c :: cs => if isDigit c then (plainDigits isDigit cs).map (c :: ·) else none

def wholeDigits (cs : List Char) : Option (List Char) := do
  let ds ← plainDigits Char.isDigit cs
  if cs.length ≠ 1 ∧ ds.head? = some '0' then none else some ds

def splitSign : List Char → Bool × List Char
  | '-' :: cs => (true, cs)
  | '+' :: cs => (false, cs)
  | cs => (false, cs)

/-- The integer whose base is a letter behind a zero. It may have no digits. -/
def based? (base : Nat) (cs : List Char) : Option Toml :=
  if cs.isEmpty then some (.integer none)
  else do
    let isDigit c := (Text.Hexadecimal.value? c).any (· < base)
    let ds ← plainDigits isDigit cs
    let n := ds.foldl (fun n c => base * n + (Text.Hexadecimal.value? c).getD 0) 0
    return .integer (some n)

def integer? : List Char → Option Toml
  | '0' :: 'x' :: cs => based? 16 cs
  | '0' :: 'o' :: cs => based? 8 cs
  | '0' :: 'b' :: cs => based? 2 cs
  | cs => do
    let (negative, cs) := splitSign cs
    let n := Text.Decimal.valueOf (← wholeDigits cs)
    return .integer (some (if negative then -n else n))

def splitAt? (p : Char → Bool) (cs : List Char) : List Char × Option (List Char) :=
  match cs.span fun c => !p c with
  | (front, []) => (front, none)
  | (front, _ :: back) => (front, some back)

def float? (cs : List Char) : Option Toml :=
  let (_, cs) := splitSign cs
  if cs = ['i', 'n', 'f'] ∨ cs = ['n', 'a', 'n'] then some (.float none)
  else do
    let (mantissa, power) := splitAt? (fun c => c == 'e' || c == 'E') cs
    let (whole, fraction) := splitAt? (· == '.') mantissa
    if power.isNone ∧ fraction.isNone then none
    let whole ← wholeDigits whole
    let fraction ← match fraction with
      | none => some []
      | some ds => plainDigits Char.isDigit ds
    let power : Int ← match power with
      | none => some 0
      | some ds =>
        let (negative, ds) := splitSign ds
        (plainDigits Char.isDigit ds).map fun ds =>
          if negative then -Text.Decimal.valueOf ds else Text.Decimal.valueOf ds
    return .float (some (.ofParts whole fraction power))

def fixedDigits (count : Nat) (cs : List Char) : Option (Nat × List Char) :=
  let ds := cs.take count
  if ds.length = count ∧ ds.all Char.isDigit then some (Text.Decimal.valueOf ds, cs.drop count)
  else none

def behindChar (c : Char) : List Char → Option (List Char)
  | [] => none
  | d :: cs => if c = d then some cs else none

def isLeapYear (year : Nat) : Bool := year % 4 == 0 && (year % 100 != 0 || year % 400 == 0)

def daysOfMonth (year month : Nat) : Nat :=
  if month = 2 then (if isLeapYear year then 29 else 28)
  else if month = 4 ∨ month = 6 ∨ month = 9 ∨ month = 11 then 30
  else 31

def behindDate (cs : List Char) : Option (List Char) := do
  let (year, cs) ← fixedDigits 4 cs
  let (month, cs) ← fixedDigits 2 (← behindChar '-' cs)
  let (day, cs) ← fixedDigits 2 (← behindChar '-' cs)
  if 1 ≤ month ∧ month ≤ 12 ∧ 1 ≤ day ∧ day ≤ daysOfMonth year month then some cs else none

/-- The rest behind the seconds of a time of day, which may have a fraction. A minute can have a
leap second. -/
def behindSeconds (cs : List Char) : Option (List Char) := do
  let (second, cs) ← fixedDigits 2 cs
  if 60 < second then none
  match cs with
  | '.' :: fraction =>
    let (ds, rest) := fraction.span Char.isDigit
    if ds.isEmpty then none else some rest
  | cs => some cs

def behindTime (cs : List Char) : Option (List Char) := do
  let (hour, cs) ← fixedDigits 2 cs
  let (minute, cs) ← fixedDigits 2 (← behindChar ':' cs)
  if 23 < hour ∨ 59 < minute then none
  match cs with
  | ':' :: cs => behindSeconds cs
  | cs => some cs

def isOffset : List Char → Bool
  | [] => true
  | ['Z'] | ['z'] => true
  | sign :: cs =>
    (sign == '+' || sign == '-') &&
      ((do
        let (hours, cs) ← fixedDigits 2 cs
        let (minutes, cs) ← fixedDigits 2 (← behindChar ':' cs)
        if cs.isEmpty ∧ hours ≤ 23 ∧ minutes ≤ 59 then some () else none : Option Unit).isSome)

def datetime? (cs : List Char) : Option Toml :=
  match behindDate cs with
  | some [] => some .datetime
  | some (mark :: cs) =>
    if mark = 'T' ∨ mark = 't' ∨ mark = ' ' then
      match behindTime cs with
      | some rest => if isOffset rest then some .datetime else none
      | none => none
    else none
  | none => if behindTime cs = some [] then some .datetime else none

def scalar? (cs : List Char) : Option Toml :=
  if cs = "true".toList then some (.boolean true)
  else if cs = "false".toList then some (.boolean false)
  else datetime? cs <|> integer? cs <|> float? cs

def isScalarChar (c : Char) : Bool :=
  c.isAlphanum || c == '_' || c == '+' || c == '-' || c == '.' || c == ':'

/-- The characters of a scalar at the front of a text, and the rest. One space may stand between a
date and a time. -/
def scalarRun (cs : List Char) : List Char × List Char :=
  match cs.span isScalarChar with
  | (front, ' ' :: c :: rest) =>
    if behindDate front = some [] ∧ c.isDigit then
      let (back, rest) := (c :: rest).span isScalarChar
      (front ++ ' ' :: back, rest)
    else (front, ' ' :: c :: rest)
  | found => found

end TriplesSql.Toml
