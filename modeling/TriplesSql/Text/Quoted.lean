namespace TriplesSql.Text

def isBlank (c : Char) : Bool :=
  let n := c.toNat
  (9 ≤ n && n ≤ 13) || n == 0x20 || n == 0x85 || n == 0xA0 || n == 0x1680
    || (0x2000 ≤ n && n ≤ 0x200A) || n == 0x2028 || n == 0x2029 || n == 0x202F
    || n == 0x205F || n == 0x3000

/-- Drops the longest run at the end whose characters all satisfy `p`. -/
def dropEndWhile (p : Char → Bool) (cs : List Char) : List Char :=
  (cs.reverse.dropWhile p).reverse

def trimEnd (s : String) : String :=
  String.ofList (dropEndWhile isBlank s.toList)

def trim (s : String) : String :=
  String.ofList (dropEndWhile isBlank (s.toList.dropWhile isBlank))

theorem dropEndWhile_nil (p : Char → Bool) : dropEndWhile p [] = [] := rfl

theorem dropEndWhile_concat_of_pos {p : Char → Bool} {c : Char} (h : p c = true) (cs : List Char) :
    dropEndWhile p (cs ++ [c]) = dropEndWhile p cs := by
  simp [dropEndWhile, h]

theorem dropEndWhile_concat_of_neg {p : Char → Bool} {c : Char} (h : p c = false) (cs : List Char) :
    dropEndWhile p (cs ++ [c]) = cs ++ [c] := by
  simp [dropEndWhile, h]

def double (q : Char) : List Char → List Char
  | [] => []
  | c :: cs => if c = q then q :: q :: double q cs else c :: double q cs

/-- Collapses each pair of adjacent delimiters, left to right, into one. -/
def collapse (q : Char) : List Char → List Char
  | [] => []
  | [c] => [c]
  | c :: d :: cs =>
    if c = q ∧ d = q then q :: collapse q cs else c :: collapse q (d :: cs)

/-- A text between delimiters, with the closing one doubled inside. -/
def enclose (opening closing : Char) (s : String) : String :=
  String.ofList (opening :: double closing s.toList ++ [closing])

theorem collapse_cons_of_ne {q c : Char} (h : c ≠ q) (cs : List Char) :
    collapse q (c :: cs) = c :: collapse q cs := by
  cases cs with
  | nil => rfl
  | cons d ds => simp [collapse, h]

theorem collapse_double (q : Char) (cs : List Char) : collapse q (double q cs) = cs := by
  induction cs with
  | nil => rfl
  | cons c cs ih =>
    by_cases h : c = q
    · simp [double, h, collapse, ih]
    · simp [double, h, collapse_cons_of_ne, ih]

def insideQuotes? : List Char → Option (List Char)
  | '"' :: cs => if cs.getLast? = some '"' then some cs.dropLast else none
  | _ => none

/-- Reads a name that may be delimited: blanks around it do not count, and between double quotes a
doubled quote stands for one quote. -/
def unquote (s : String) : String :=
  let name := trim s
  match insideQuotes? name.toList with
  | some cs => String.ofList (collapse '"' cs)
  | none => name

end TriplesSql.Text
