import TriplesSql.Text.Digits
import TriplesSql.Text.Quoted

namespace TriplesSql.Select

structure Name where
  text : String
  quote : Option Char
  deriving DecidableEq, Repr

inductive StringKind where
  | plain
  | doubleQuoted
  | national
  | escaped
  | unicode
  | bytes
  | doubleQuotedBytes
  | hex
  | dollar (tag : String)
  deriving DecidableEq, Repr

/-- One unit of a query text. The key of a word is its upper case if it is bare and empty if it is
delimited, so that only a bare word is ever taken for a keyword. A long number has an `L` behind it.
A symbol is one that the grammar knows, or a character without a meaning; an operator is made of the
characters of symbols and known to the database only. -/
inductive Lexeme where
  | word (name : Name) (key : String)
  | number (text : String) (long : Bool)
  | string (kind : StringKind) (text : String)
  | placeholder (text : String)
  | symbol (text : String)
  | operator (text : String)
  deriving DecidableEq, Repr

/-- The upper case of a character in so far as it is made of ASCII letters. A few characters outside
ASCII have such an upper case, and ligatures have more than one letter. -/
def upperCase (c : Char) : List Char :=
  match c with
  | 'ß' => ['S', 'S']
  | 'ı' => ['I']
  | 'ſ' => ['S']
  | 'ﬀ' => ['F', 'F']
  | 'ﬁ' => ['F', 'I']
  | 'ﬂ' => ['F', 'L']
  | 'ﬃ' => ['F', 'F', 'I']
  | 'ﬄ' => ['F', 'F', 'L']
  | 'ﬅ' | 'ﬆ' => ['S', 'T']
  | c => [c.toUpper]

def Lexeme.bare (text : String) : Lexeme :=
  .word ⟨text, none⟩ (String.ofList (text.toList.flatMap upperCase))

def Lexeme.delimited (quote : Char) (text : String) : Lexeme :=
  .word ⟨text, some quote⟩ ""

/-- Writes each quote twice. A quote right after a backslash counts as already escaped, and two
adjacent quotes count as one written twice. -/
def doubleUnlessDoubled (q : Char) (afterBackslash : Bool) : List Char → List Char
  | [] => []
  | [c] => if c = q ∧ ¬ afterBackslash then [q, q] else [c]
  | c :: d :: cs =>
    if c = q then
      if afterBackslash then c :: doubleUnlessDoubled q true (d :: cs)
      else if d = q then q :: q :: doubleUnlessDoubled q false cs
      else q :: q :: doubleUnlessDoubled q false (d :: cs)
    else c :: doubleUnlessDoubled q (c = '\\') (d :: cs)

def between (q : Char) (s : String) : String :=
  String.ofList (q :: doubleUnlessDoubled q false s.toList ++ [q])

/-- A name with its delimiters. A name in brackets is written back as it was read. -/
def Name.spelling (n : Name) : String :=
  match n.quote with
  | none => n.text
  | some '[' => "[" ++ n.text ++ "]"
  | some q => between q n.text

def backslashed : List Char → List Char
  | [] => []
  | '\'' :: cs => '\\' :: '\'' :: backslashed cs
  | '\\' :: cs => '\\' :: '\\' :: backslashed cs
  | '\n' :: cs => '\\' :: 'n' :: backslashed cs
  | '\t' :: cs => '\\' :: 't' :: backslashed cs
  | '\r' :: cs => '\\' :: 'r' :: backslashed cs
  | c :: cs => c :: backslashed cs

def lastDigits (n : Nat) : Nat → List Char
  | 0 => []
  | count + 1 => lastDigits (n / 16) count ++ [Text.Hexadecimal.upperDigit (n % 16)]

def codePointEscape (c : Char) : List Char :=
  if c = '\'' then ['\'', '\'']
  else if c = '\\' then ['\\', '\\']
  else if c.toNat < 0x80 then [c]
  else if c.toNat ≤ 0xFFFF then '\\' :: lastDigits c.toNat 4
  else '\\' :: '+' :: lastDigits c.toNat 6

def StringKind.spelling (kind : StringKind) (s : String) : String :=
  match kind with
  | .plain => between '\'' s
  | .doubleQuoted => between '"' s
  | .national => "N'" ++ s ++ "'"
  | .escaped => "E'" ++ String.ofList (backslashed s.toList) ++ "'"
  | .unicode => "U&'" ++ String.ofList (s.toList.flatMap codePointEscape) ++ "'"
  | .bytes => "B'" ++ s ++ "'"
  | .doubleQuotedBytes => "B\"" ++ s ++ "\""
  | .hex => "X'" ++ s ++ "'"
  | .dollar tag => "$" ++ tag ++ "$" ++ s ++ "$" ++ tag ++ "$"

def numberSpelling (text : String) (long : Bool) : String := if long then text ++ "L" else text

def Name.literal (n : Name) : String :=
  match n.quote with
  | none => n.text
  | some '[' => "[" ++ n.text ++ "]"
  | some q => q.toString ++ n.text ++ q.toString

def Lexeme.literal : Lexeme → String
  | .word n _ => n.literal
  | .number s long => numberSpelling s long
  | .string .plain s => "'" ++ s ++ "'"
  | .string .doubleQuoted s => "\"" ++ s ++ "\""
  | .string .escaped s => "E'" ++ s ++ "'"
  | .string .unicode s => "U&'" ++ s ++ "'"
  | .string kind s => kind.spelling s
  | .placeholder s => s
  | .symbol s => s
  | .operator s => s

end TriplesSql.Select
