import TriplesSql.Json.Value
import TriplesSql.Text.Digits

namespace TriplesSql.Json

open Text

def escapeChar (c : Char) : List Char :=
  match c.toNat with
  | 0x08 => ['\\', 'b']
  | 0x09 => ['\\', 't']
  | 0x0A => ['\\', 'n']
  | 0x0C => ['\\', 'f']
  | 0x0D => ['\\', 'r']
  | 0x22 => ['\\', '"']
  | 0x5C => ['\\', '\\']
  | n =>
    if n < 0x20 then
      ['\\', 'u', '0', '0', Hexadecimal.lowerDigit (n / 16), Hexadecimal.lowerDigit (n % 16)]
    else [c]

/-- A string between quotes; one that is no text is written as half of a surrogate pair. -/
def printString : Option String → List Char
  | some s => '"' :: s.toList.flatMap escapeChar ++ ['"']
  | none => "\"\\ud800\"".toList

def printNumber (negative : Bool) (size : Numeral) : List Char :=
  if negative then '-' :: size.print else size.print

mutual

def print : Json → List Char
  | .null => "null".toList
  | .boolean true => "true".toList
  | .boolean false => "false".toList
  | .number negative size => printNumber negative size
  | .string s => printString s
  | .array items => '[' :: printItems items ++ [']']
  | .object members => '{' :: printMembers members ++ ['}']

def printItems : List Json → List Char
  | [] => []
  | [v] => print v
  | v :: w :: vs => print v ++ ',' :: printItems (w :: vs)

def printMembers : List (Option String × Json) → List Char
  | [] => []
  | [(name, v)] => printString name ++ ':' :: print v
  | (name, v) :: m :: ms =>
    printString name ++ ':' :: print v ++ ',' :: printMembers (m :: ms)

end

def toText (v : Json) : String := String.ofList (print v)

def newLine (level : Nat) : List Char := '\n' :: List.replicate (2 * level) ' '

mutual

/-- The text of a value whose closing bracket stands at a level. -/
def pretty (level : Nat) : Json → List Char
  | .array (v :: vs) => '[' :: prettyItems (level + 1) (v :: vs) ++ newLine level ++ [']']
  | .object (m :: ms) => '{' :: prettyMembers (level + 1) (m :: ms) ++ newLine level ++ ['}']
  | v => print v

def prettyItems (level : Nat) : List Json → List Char
  | [] => []
  | [v] => newLine level ++ pretty level v
  | v :: w :: vs => newLine level ++ pretty level v ++ ',' :: prettyItems level (w :: vs)

def prettyMembers (level : Nat) : List (Option String × Json) → List Char
  | [] => []
  | [(name, v)] => newLine level ++ printString name ++ ':' :: ' ' :: pretty level v
  | (name, v) :: m :: ms =>
    newLine level ++ printString name ++ ':' :: ' ' :: pretty level v
      ++ ',' :: prettyMembers level (m :: ms)

end

def toPrettyText (v : Json) : String := String.ofList (pretty 0 v)

end TriplesSql.Json
