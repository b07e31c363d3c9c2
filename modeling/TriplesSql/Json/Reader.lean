import TriplesSql.Json.Value
import TriplesSql.Text.Digits

/-!
# Reading JSON

Reading takes a value and the blanks around it from the front of a text. A string may hold any
character but a control character, a quote or a backslash, which stand behind a backslash.
-/

namespace TriplesSql.Json

def skipBlanks (cs : List Char) : List Char :=
  cs.dropWhile fun c => c == ' ' || c == '\n' || c == '\t' || c == '\r'

/-- A part of a string: a character, or a UTF-16 code unit that an escape names. -/
inductive StringPart where
  | char (c : Char)
  | unit (n : Nat)
  deriving DecidableEq, Repr

def escaped? : Char → Option Char
  | '"' => some '"'
  | '\\' => some '\\'
  | '/' => some '/'
  | 'b' => some '\x08'
  | 'f' => some '\x0c'
  | 'n' => some '\n'
  | 'r' => some '\r'
  | 't' => some '\t'
  | _ => none

def stringParts : List Char → Option (List StringPart × List Char)
  | [] => none
  | '"' :: cs => some ([], cs)
  | '\\' :: 'u' :: a :: b :: c :: d :: cs => do
    let n ← Text.Hexadecimal.number? [a, b, c, d]
    let (parts, rest) ← stringParts cs
    return (.unit n :: parts, rest)
  | '\\' :: e :: cs => do
    let c ← escaped? e
    let (parts, rest) ← stringParts cs
    return (.char c :: parts, rest)
  | c :: cs =>
    if c = '\\' ∨ c.toNat < 0x20 then none
    else do
      let (parts, rest) ← stringParts cs
      return (.char c :: parts, rest)

def isHighHalf (n : Nat) : Bool := 0xD800 ≤ n && n < 0xDC00

def isLowHalf (n : Nat) : Bool := 0xDC00 ≤ n && n < 0xE000

/-- The characters of a string, if all its surrogates are in pairs. -/
def joinParts : List StringPart → Option (List Char)
  | [] => some []
  | .char c :: parts => (joinParts parts).map (c :: ·)
  | .unit high :: .unit low :: parts =>
    if isHighHalf high then
      if isLowHalf low then
        (joinParts parts).map
          (Char.ofNat (0x10000 + (high - 0xD800) * 0x400 + (low - 0xDC00)) :: ·)
      else none
    else if isLowHalf high then none
    else (joinParts (.unit low :: parts)).map (Char.ofNat high :: ·)
  | .unit n :: parts =>
    if isHighHalf n || isLowHalf n then none
    else (joinParts parts).map (Char.ofNat n :: ·)

def stringBody (cs : List Char) : Option (Option String × List Char) :=
  (stringParts cs).map fun (parts, rest) => ((joinParts parts).map String.ofList, rest)

def digits (cs : List Char) : Option (List Char × List Char) :=
  match cs.span Char.isDigit with
  | ([], _) => none
  | found => some found

def fraction : List Char → Option (List Char × List Char)
  | '.' :: cs => digits cs
  | cs => some ([], cs)

def exponentDigits : List Char → Option (Int × List Char)
  | '-' :: cs => (digits cs).map fun (ds, rest) => (-Int.ofNat (Text.Decimal.valueOf ds), rest)
  | '+' :: cs => (digits cs).map fun (ds, rest) => (Int.ofNat (Text.Decimal.valueOf ds), rest)
  | cs => (digits cs).map fun (ds, rest) => (Int.ofNat (Text.Decimal.valueOf ds), rest)

def exponent : List Char → Option (Option Int × List Char)
  | [] => some (none, [])
  | c :: cs =>
    if c = 'e' ∨ c = 'E' then
      (exponentDigits cs).map fun (power, rest) => (some power, rest)
    else some (none, c :: cs)

/-- Reads a number without a sign. A zero in front of other digits is refused. -/
def unsigned (cs : List Char) : Option (Numeral × List Char) := do
  let (whole, cs) ← digits cs
  if whole.head? = some '0' ∧ whole.length ≠ 1 then none
  let (behindPoint, cs) ← fraction cs
  let (power, cs) ← exponent cs
  return (⟨whole, behindPoint, power⟩, cs)

mutual

/-- Reads a value from the front of a text. The fuel bounds the calls inside each other. -/
def value : Nat → List Char → Option (Json × List Char)
  | 0, _ => none
  | fuel + 1, cs =>
    match skipBlanks cs with
    | 'n' :: 'u' :: 'l' :: 'l' :: cs => some (.null, cs)
    | 't' :: 'r' :: 'u' :: 'e' :: cs => some (.boolean true, cs)
    | 'f' :: 'a' :: 'l' :: 's' :: 'e' :: cs => some (.boolean false, cs)
    | '"' :: cs => (stringBody cs).map fun (s, rest) => (.string s, rest)
    | '[' :: cs =>
      match skipBlanks cs with
      | ']' :: rest => some (.array [], rest)
      | _ => (items fuel cs).map fun (vs, rest) => (.array vs, rest)
    | '{' :: cs =>
      match skipBlanks cs with
      | '}' :: rest => some (.object [], rest)
      | _ => (members fuel cs).map fun (ms, rest) => (.object ms, rest)
    | '-' :: cs => (unsigned cs).map fun (size, rest) => (.number true size, rest)
    | cs => (unsigned cs).map fun (size, rest) => (.number false size, rest)

def items : Nat → List Char → Option (List Json × List Char)
  | 0, _ => none
  | fuel + 1, cs => do
    let (v, cs) ← value fuel cs
    match skipBlanks cs with
    | ']' :: rest => return ([v], rest)
    | ',' :: cs =>
      let (vs, rest) ← items fuel cs
      return (v :: vs, rest)
    | _ => none

def members : Nat → List Char → Option (List (Option String × Json) × List Char)
  | 0, _ => none
  | fuel + 1, cs =>
    match skipBlanks cs with
    | '"' :: cs => do
      let (name, cs) ← stringBody cs
      match skipBlanks cs with
      | ':' :: cs =>
        let (v, cs) ← value fuel cs
        match skipBlanks cs with
        | '}' :: rest => return ([(name, v)], rest)
        | ',' :: cs =>
          let (ms, rest) ← members fuel cs
          return ((name, v) :: ms, rest)
        | _ => none
      | _ => none
    | _ => none

end

/-- Reads a text that is one value. Each call but the last takes a character or is followed by one
that does, so twice the length bounds their number. -/
def ofText? (s : String) : Option Json := do
  let cs := s.toList
  let (v, rest) ← value (2 * cs.length + 2) cs
  if (skipBlanks rest).isEmpty then some v else none

end TriplesSql.Json
