import TriplesSql.Dialect
import TriplesSql.Text.Classes
import TriplesSql.Select.Lexeme

/-!
# Reading lexemes

The lexical rules of query text. Blanks and comments are skipped; a text that ends inside a string,
a delimited name or a block comment has no lexemes at all.
-/

namespace TriplesSql.Select

def startsWord (d : Dialect) (c : Char) : Bool :=
  Text.isAlphabetic c || c == '_' ||
    match d with
    | .postgres | .duckdb => false
    | .tsql => c == '#' || c == '@'
    | .mysql => c == '$' || c == '@' || (0x80 ≤ c.toNat && c.toNat ≤ 0xFFFF)

def continuesWord (d : Dialect) (c : Char) : Bool :=
  startsWord d c || c.isDigit || c == '$'

def closingDelimiter? (d : Dialect) (c : Char) : Option Char :=
  match d, c with
  | .postgres, '"' | .duckdb, '"' | .tsql, '"' => some '"'
  | .mysql, '`' | .duckdb, '`' => some '`'
  | .tsql, '[' => some ']'
  | _, _ => none

def escapesInStrings (d : Dialect) : Bool := d = .mysql

def extendsOperator (d : Dialect) (c : Char) : Bool :=
  d = .postgres && "+-*/<>=~!@#%^&|`?".toList.contains c

def unescaped (c : Char) : Char :=
  match c with
  | '0' => '\x00'
  | 'a' => '\x07'
  | 'b' => '\x08'
  | 'f' => '\x0c'
  | 'n' => '\n'
  | 'r' => '\r'
  | 't' => '\t'
  | 'Z' => '\x1a'
  | _ => c

/-- The text up to the closing quote and the rest behind it. A doubled quote stands for one; with
`escapes`, a backslash and the next character stand for a character. -/
def closeString (q : Char) (escapes : Bool) : List Char → Option (List Char × List Char)
  | [] => none
  | [c] => if c = q then some ([], []) else none
  | c :: c' :: cs =>
    if c = q then
      if c' = q then (closeString q escapes cs).map fun (s, rest) => (q :: s, rest)
      else some ([], c' :: cs)
    else if escapes ∧ c = '\\' then
      (closeString q escapes cs).map fun (s, rest) => (unescaped c' :: s, rest)
    else (closeString q escapes (c' :: cs)).map fun (s, rest) => (c :: s, rest)

def charOf? (n : Nat) : Option Char := if n.isValidChar then some (Char.ofNat n) else none

def namedChar? (digits : List Char) : Option Char :=
  let digits := match digits with
    | '+' :: rest => rest
    | _ => digits
  if digits.isEmpty then none else (Text.Hexadecimal.number? digits).bind charOf?

def byteChar? (base : Nat) (digits : List Char) : Option Char :=
  let n := digits.foldl (fun n c => base * n + (Text.Hexadecimal.value? c).getD 0) 0 % 0x100
  if n < 0x80 then charOf? n else none

/-- The character that stands behind a backslash, and the rest behind it: a letter, up to two
hexadecimal or three octal digits of a byte, or four or eight hexadecimal digits of a code point. -/
def letterEscape : List Char → Option (Char × List Char)
  | [] => none
  | 'u' :: cs => named 4 cs
  | 'U' :: cs => named 8 cs
  | 'x' :: cs =>
    let digits := (cs.take 2).takeWhile fun c => (Text.Hexadecimal.value? c).isSome
    if digits.isEmpty then some ('x', cs)
    else (byteChar? 16 digits).map (·, cs.drop digits.length)
  | c :: cs =>
    if isOctal c then
      let digits := (cs.take 2).takeWhile isOctal
      (byteChar? 8 (c :: digits)).map (·, cs.drop digits.length)
    else some (if "bfnrt".toList.contains c then unescaped c else c, cs)
where
  named (count : Nat) (cs : List Char) : Option (Char × List Char) :=
    let digits := cs.take count
    if digits.length < count then none else (namedChar? digits).map (·, cs.drop count)
  isOctal (c : Char) : Bool := '0' ≤ c && c ≤ '7'

def closeEscaped : Nat → List Char → Option (List Char × List Char)
  | 0, _ => none
  | _, [] => none
  | fuel + 1, '\'' :: '\'' :: cs =>
    (closeEscaped fuel cs).map fun (s, rest) => ('\'' :: s, rest)
  | _, '\'' :: cs => some ([], cs)
  | fuel + 1, '\\' :: cs => do
    let (c, cs) ← letterEscape cs
    if c = '\x00' then none
    let (s, rest) ← closeEscaped fuel cs
    return (c :: s, rest)
  | fuel + 1, c :: cs => (closeEscaped fuel cs).map fun (s, rest) => (c :: s, rest)

def codePoint (count : Nat) (cs : List Char) : Option (Char × List Char) := do
  let digits := cs.take count
  if digits.length < count then none
  let n ← Text.Hexadecimal.number? digits
  return (← charOf? n, cs.drop count)

def closeUnicode : Nat → List Char → Option (List Char × List Char)
  | 0, _ => none
  | _, [] => none
  | fuel + 1, '\'' :: '\'' :: cs =>
    (closeUnicode fuel cs).map fun (s, rest) => ('\'' :: s, rest)
  | _, '\'' :: cs => some ([], cs)
  | fuel + 1, '\\' :: cs => do
    let (c, cs) ← match cs with
      | '\\' :: cs => some ('\\', cs)
      | '+' :: cs => codePoint 6 cs
      | cs => codePoint 4 cs
    let (s, rest) ← closeUnicode fuel cs
    return (c :: s, rest)
  | fuel + 1, c :: cs => (closeUnicode fuel cs).map fun (s, rest) => (c :: s, rest)

/-- The rest behind a block comment that is open to depth `n + 1`. Each character is looked at with
the one before it, so one character can end a mark and begin another. -/
def afterBlockComment (n : Nat) (before : Char) : List Char → Option (List Char)
  | [] => none
  | c :: cs =>
    if before = '/' ∧ c = '*' then afterBlockComment (n + 1) c cs
    else if before = '*' ∧ c = '/' then
      match n with
      | 0 => some cs
      | n + 1 => afterBlockComment n c cs
    else afterBlockComment n c cs

def afterLineComment (cs : List Char) : List Char := (cs.dropWhile (· != '\n')).drop 1

def closeDollars : List Char → Option (List Char × List Char)
  | [] => none
  | '$' :: '$' :: cs => some ([], cs)
  | c :: cs => (closeDollars cs).map fun (s, rest) => (c :: s, rest)

/-- What is taken of a text when it is compared with a tag and a dollar sign behind it: the
characters up to the first one that differs, whether they are the whole mark, and the rest. A
character that differs from the tag is taken too, one in place of the dollar sign is not. -/
def compareTag : List Char → List Char → Option (List Char × Bool × List Char)
  | [], '$' :: cs => some (['$'], true, cs)
  | [], cs => some ([], false, cs)
  | _ :: _, [] => none
  | t :: tag, c :: cs =>
    if t = c then (compareTag tag cs).map fun (taken, found, rest) => (c :: taken, found, rest)
    else some ([c], false, cs)

def closeTag (tag : List Char) : Nat → List Char → Option (List Char × List Char)
  | 0, _ => none
  | _, [] => none
  | fuel + 1, c :: cs =>
    if c = '$' then
      match compareTag tag cs with
      | none => none
      | some (_, true, rest) => some ([], rest)
      | some (taken, false, rest) =>
        (closeTag tag fuel rest).map fun (s, rest) => ('$' :: taken ++ s, rest)
    else (closeTag tag fuel cs).map fun (s, rest) => (c :: s, rest)

def dollar? (cs : List Char) : Option (Lexeme × List Char) :=
  match cs with
  | '$' :: body =>
    (closeDollars body).map fun (s, rest) => (.string (.dollar "") (String.ofList s), rest)
  | _ =>
    let (tag, rest) := cs.span fun c => Text.isAlphabetic c || Text.isNumeric c || c == '_'
    match rest with
    | '$' :: body =>
      (closeTag tag (body.length + 1) body).map fun (s, rest) =>
        (.string (.dollar (String.ofList tag)) (String.ofList s), rest)
    | _ => some (.placeholder (String.ofList ('$' :: tag)), rest)

def wordFrom (d : Dialect) (front cs : List Char) : Lexeme × List Char :=
  let (part, rest) := cs.span (continuesWord d)
  (.bare (String.ofList (front ++ part)), rest)

def exponent (cs : List Char) : List Char × List Char :=
  match cs with
  | [] => ([], [])
  | e :: r =>
    let (sign, digits) := match r with
      | '+' :: r' => (['+'], r')
      | '-' :: r' => (['-'], r')
      | _ => ([], r)
    if (e == 'e' || e == 'E') && (digits.head?.any Char.isDigit) then
      let (ds, rest) := digits.span Char.isDigit
      (e :: sign ++ ds, rest)
    else ([], cs)

/-- A number, or a point that is no part of one. In one dialect a word may begin with digits if no
mark of an exponent follows them. -/
def numberOrPoint (d : Dialect) (cs : List Char) : Lexeme × List Char :=
  match cs with
  | '0' :: 'x' :: rest =>
    let (digits, rest) := rest.span fun c => (Text.Hexadecimal.value? c).isSome
    (.string .hex (String.ofList digits), rest)
  | _ =>
    let (whole, rest) := cs.span Char.isDigit
    let (point, rest) := match rest with
      | '.' :: r => (['.'], r)
      | r => ([], r)
    let (fraction, rest) := rest.span Char.isDigit
    let mantissa := whole ++ point ++ fraction
    if mantissa = ['.'] then (.symbol ".", rest)
    else
      let marked := rest.head? = some 'e' ∨ rest.head? = some 'E'
      let (power, rest) := exponent rest
      let text := String.ofList (mantissa ++ power)
      let (tail, afterTail) := rest.span (continuesWord d)
      if d = .mysql ∧ ¬ marked ∧ tail ≠ [] then
        (.bare (text ++ String.ofList tail), afterTail)
      else match rest with
        | 'L' :: r => (.number text true, r)
        | _ => (.number text false, rest)

def extensibleSymbols : List String :=
  ["->>", "||/", "<=>", "~~*", "#>>", "->", "|/", "||", "<=", "<>", "<<", "<@", ">=", ">>", "&&",
    "~*", "~~", "#-", "#>", "-", "|", "<", ">", "&", "%", "~", "#"]

def closedSymbols : List String :=
  ["!~~*", "!~~", "!~*", "!~", "!!", "!=", "==", "=>", "::", ":=", "@>", "@?", "@@", "^@", "(", ")",
    ",", ";", ":", "+", "*", "/", "=", "!", "^", "@", "[", "]", "\x7b", "\x7d", "\\"]

def firstPrefix? (texts : List String) (cs : List Char) : Option (String × List Char) :=
  (texts.find? fun s => s.toList.isPrefixOf cs).map fun s => (s, cs.drop s.length)

/-- The symbol at the front of a text. Two ways to write that values differ are one symbol. An
integer division sign is known to one dialect only, and a character without a meaning is a symbol of
its own. -/
def readSymbol (d : Dialect) (c : Char) (cs : List Char) : Lexeme × List Char :=
  match firstPrefix? extensibleSymbols (c :: cs) with
  | some (s, rest) =>
    let (more, rest) := rest.span (extendsOperator d)
    if more.isEmpty then (.symbol s, rest) else (.operator (s ++ String.ofList more), rest)
  | none =>
    match firstPrefix? (if d = .duckdb then "//" :: closedSymbols else closedSymbols) (c :: cs) with
    | some ("!=", rest) => (.symbol "<>", rest)
    | some (s, rest) => (.symbol s, rest)
    | none => (.symbol c.toString, cs)

/-- What a number sign or an at sign begins where it may begin a word. Some symbols go before, and
so does a sign before a space; otherwise the character behind it belongs to the word in any case. -/
def signedWord (d : Dialect) (c : Char) (cs : List Char) : Lexeme × List Char :=
  match firstPrefix? ["#>>", "#>", "#-", "@>", "@?"] (c :: cs) with
  | some (s, rest) => (.symbol s, rest)
  | none =>
    match c, cs with
    | _, [] | _, ' ' :: _ => (.symbol c.toString, cs)
    | '@', ['@'] => (.symbol "@@", [])
    | '@', '@' :: ' ' :: rest => (.symbol "@@", ' ' :: rest)
    | '@', '@' :: c' :: rest => wordFrom d ['@', '@', c'] rest
    | _, c' :: rest => wordFrom d [c, c'] rest

/-- What a question mark begins: an operator or a placeholder. The operator that is the mark alone
takes the character behind it along. -/
def questionMark (d : Dialect) (cs : List Char) : Lexeme × List Char :=
  if d = .postgres then
    match cs with
    | '|' :: rest => (.symbol "?|", rest)
    | '&' :: rest => (.symbol "?&", rest)
    | _ => (.symbol "?", cs.drop 1)
  else
    let (digits, rest) := cs.span Text.isNumeric
    (.placeholder (String.ofList ('?' :: digits)), rest)

def stringOf (kind : StringKind) (q : Char) (escapes : Bool) (cs : List Char) :
    Option (Option Lexeme × List Char) :=
  (closeString q escapes cs).map fun (s, rest) => (some (.string kind (String.ofList s)), rest)

def announced? (d : Dialect) (c q : Char) : Option StringKind :=
  let bytes := d = .postgres ∨ d = .mysql
  match c, q with
  | 'b', '\'' | 'B', '\'' => if bytes then some .bytes else none
  | 'b', '"' | 'B', '"' => if bytes then some .doubleQuotedBytes else none
  | 'n', '\'' | 'N', '\'' => some .national
  | 'e', '\'' | 'E', '\'' => some .escaped
  | 'x', '\'' | 'X', '\'' => some .hex
  | _, _ => none

def announcedString (d : Dialect) (c : Char) (cs : List Char) :
    Option (Option (Option Lexeme × List Char)) :=
  match cs.head?.bind (announced? d c), cs with
  | some .escaped, _ :: rest =>
    some <| (closeEscaped (rest.length + 1) rest).map fun (s, rest) =>
      (some (.string .escaped (String.ofList s)), rest)
  | some kind, q :: rest => some (stringOf kind q (kind = .national ∨ kind = .hex) rest)
  | _, '&' :: '\'' :: rest =>
    if d = .postgres ∧ (c = 'u' ∨ c = 'U') then
      some <| (closeUnicode (rest.length + 1) rest).map fun (s, rest) =>
        (some (.string .unicode (String.ofList s)), rest)
    else none
  | _, _ => none

def step (d : Dialect) (c : Char) (cs : List Char) : Option (Option Lexeme × List Char) :=
  let one (found : Lexeme × List Char) := some (some found.1, found.2)
  if c = ' ' ∨ c = '\t' ∨ c = '\n' ∨ c = '\r' then some (none, cs)
  else match announcedString d c cs with
  | some found => found
  | none =>
    if c = '\'' then stringOf .plain c (escapesInStrings d) cs
    else if c = '"' ∧ d = .mysql then stringOf .doubleQuoted c (escapesInStrings d) cs
    else match closingDelimiter? d c with
    | some q =>
      (closeString q false cs).map fun (s, rest) => (some (.delimited c (String.ofList s)), rest)
    | none =>
      if c.isDigit ∨ c = '.' then one (numberOrPoint d (c :: cs))
      else if c = '-' ∧ cs.head? = some '-' then some (none, afterLineComment (cs.drop 1))
      else if c = '/' ∧ cs.head? = some '*' then
        (afterBlockComment 0 ' ' (cs.drop 1)).map fun rest => (none, rest)
      else if c = '#' ∧ d = .mysql then some (none, afterLineComment cs)
      else if (c = '#' ∨ c = '@') ∧ startsWord d c then one (signedWord d c cs)
      else if c = '?' then one (questionMark d cs)
      else if startsWord d c then one (wordFrom d [c] cs)
      else if c = '$' then (dollar? cs).map fun (t, rest) => (some t, rest)
      else if Text.isBlank c then some (none, cs)
      else one (readSymbol d c cs)

def lexemesWithin (d : Dialect) : Nat → List Char → Option (List Lexeme)
  | _, [] => some []
  | 0, _ :: _ => none
  | fuel + 1, c :: cs => do
    let (t, rest) ← step d c cs
    let ts ← lexemesWithin d fuel rest
    return t.toList ++ ts

/-- The lexemes of a query text. Each step reads at least one character. -/
def lexemes? (d : Dialect) (sql : String) : Option (List Lexeme) :=
  lexemesWithin d sql.length sql.toList

end TriplesSql.Select
