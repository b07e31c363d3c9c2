import Mathlib.Data.List.TakeWhile
import TriplesSql.Proofs.Query.Literal
import TriplesSql.Query.Token

/-!
# Reading tokens back

The lexical rules that a written statement is read by: literals, names between the delimiters of the
dialect, words, whole numbers that may have a sign, and marks. Blanks are skipped. What a token is
written as is read as that token, if the text behind it can not be taken for a part of it.
-/

namespace TriplesSql

open Select (closeString)

variable {d : Dialect} {c : Char} {cs rest : List Char}

namespace Token

def isWordChar (c : Char) : Bool := c.isAlphanum || c = '_'

def words : List (String × Token) :=
  [("SELECT", .keyword .select), ("FROM", .keyword .from), ("WHERE", .keyword .where),
    ("AND", .keyword .and), ("AS", .keyword .as), ("ON", .keyword .on), ("JOIN", .keyword .join),
    ("LEFT", .keyword .left), ("true", .boolean true), ("false", .boolean false)]

def natural? (word : List Char) : Option Nat :=
  if word ≠ [] ∧ word.all Char.isDigit then some (Nat.ofDigitChars 10 word 0) else none

def ofWord? (word : List Char) : Option Token :=
  match natural? word with
  | some n => some (.integer n)
  | none => words.lookup (String.ofList word)

def ofMark? : Char → Option Token
  | ',' => some .comma
  | '.' => some .dot
  | '*' => some .star
  | '(' => some .lparen
  | ')' => some .rparen
  | '=' => some .equals
  | _ => none

/-- The tokens that a written token is read as: none for a blank, the parts of a name and the point
between them, and a number for a truth value that is not written as a word. -/
def units (d : Dialect) : Token → List Token
  | .space | .newline | .indent _ => []
  | .qualified none s => [.name s]
  | .qualified (some schema) s => [.name schema, .dot, .name s]
  | .boolean b => if d.hasBooleanWords then [.boolean b] else [.integer (if b then 1 else 0)]
  | t => [t]

end Token

namespace Dialect

def readToken? (d : Dialect) (c : Char) (cs : List Char) : Option (Option Token × List Char) :=
  if (d.stringBody? (c :: cs)).isSome then
    (d.readString? (c :: cs)).map fun (s, rest) => (some (.string s), rest)
  else if Token.isWordChar c then
    (Token.ofWord? ((c :: cs).takeWhile Token.isWordChar)).map fun t =>
      (some t, cs.dropWhile Token.isWordChar)
  else if c = d.delimiters.1 then
    (closeString d.delimiters.2 false cs).map fun (s, rest) =>
      (some (.name (String.ofList s)), rest)
  else if c = '-' ∨ c = '+' then
    (Token.natural? (cs.takeWhile Token.isWordChar)).map fun (n : Nat) =>
      (some (.integer (if c = '-' then -n else n)), cs.dropWhile Token.isWordChar)
  else if Text.isBlank c then some (none, cs)
  else (Token.ofMark? c).map fun t => (some t, cs)

theorem length_of_stringBody? {body : List Char} (h : d.stringBody? (c :: cs) = some body) :
    body.length ≤ cs.length := by
  unfold stringBody? at h
  split at h
  · next heq =>
    obtain ⟨-, rfl⟩ := List.cons.inj heq
    exact Nat.le_of_eq (congrArg List.length (Option.some.inj h)).symm
  · next heq =>
    obtain ⟨-, rfl⟩ := List.cons.inj heq
    split at h
    · cases h
      simp
    · cases h
  · cases h

theorem eq_of_map_eq_some {α : Type} {o : Option α} {f : α → Option Token} {t : Option Token}
    (h : (o.map fun a => (f a, cs)) = some (t, rest)) : rest = cs := by
  obtain ⟨_, -, heq⟩ := Option.map_eq_some_iff.mp h
  exact (Prod.mk.inj heq).2.symm

theorem length_of_readToken? {t : Option Token} (h : d.readToken? c cs = some (t, rest)) :
    rest.length ≤ cs.length := by
  unfold readToken? at h
  have hdrop := List.length_dropWhile_le Token.isWordChar cs
  split at h
  · obtain ⟨⟨s, _⟩, hread, heq⟩ := Option.map_eq_some_iff.mp h
    obtain ⟨-, rfl⟩ := Prod.mk.inj heq
    obtain ⟨body, hbody, hclose⟩ := readString?_eq_some_iff.mp hread
    have hle := length_of_stringBody? hbody
    have hlt := Select.length_of_closeString (by decide) hclose
    omega
  split at h
  · exact eq_of_map_eq_some h ▸ hdrop
  split at h
  · obtain ⟨⟨s, _⟩, hclose, heq⟩ := Option.map_eq_some_iff.mp h
    obtain ⟨-, rfl⟩ := Prod.mk.inj heq
    have hlt := Select.length_of_closeString (by cases d <;> decide) hclose
    omega
  split at h
  · exact eq_of_map_eq_some h ▸ hdrop
  split at h
  · cases h
    exact Nat.le_refl _
  · exact Nat.le_of_eq (congrArg List.length (eq_of_map_eq_some h))

def readTokens? (d : Dialect) : List Char → Option (List Token)
  | [] => some []
  | c :: cs =>
    match h : d.readToken? c cs with
    | none => none
    | some (t, rest) =>
      have := length_of_readToken? h
      (d.readTokens? rest).map (t.toList ++ ·)
termination_by cs => cs.length

theorem readTokens?_cons {t : Option Token} (h : d.readToken? c cs = some (t, rest)) :
    d.readTokens? (c :: cs) = (d.readTokens? rest).map (t.toList ++ ·) := by
  rw [readTokens?]
  split
  · next hnone => rw [hnone] at h; cases h
  · next t' rest' hsome =>
    rw [hsome] at h
    cases h
    rfl

/-- No token in front of the text can go on in it. -/
def Apart (d : Dialect) (rest : List Char) : Prop :=
  ∀ c ∈ rest.head?, Token.isWordChar c = false ∧ c ≠ '\'' ∧ c ≠ d.delimiters.2

/-- A text in front of another is read as the given tokens. -/
def Reads (d : Dialect) (cs : List Char) (ts : List Token) (rest : List Char) : Prop :=
  d.readTokens? (cs ++ rest) = (d.readTokens? rest).map (ts ++ ·)

theorem Reads.nil : d.Reads [] [] rest := by simp [Reads]

theorem Reads.append {cs' : List Char} {ts ts' : List Token} (h : d.Reads cs ts (cs' ++ rest))
    (h' : d.Reads cs' ts' rest) : d.Reads (cs ++ cs') (ts ++ ts') rest := by
  rw [Reads] at h h' ⊢
  rw [List.append_assoc, h, h', Option.map_map]
  congr 1
  funext us
  exact (List.append_assoc ts ts' us).symm

theorem Reads.of_readToken? {t : Option Token} (h : d.readToken? c (cs ++ rest) = some (t, rest)) :
    d.Reads (c :: cs) t.toList rest :=
  readTokens?_cons h

theorem span_of_apart {w : List Char} (hw : ∀ x ∈ w, Token.isWordChar x = true)
    (hrest : d.Apart rest) :
    (w ++ rest).takeWhile Token.isWordChar = w ∧ (w ++ rest).dropWhile Token.isWordChar = rest := by
  rw [List.takeWhile_append_of_pos hw, List.dropWhile_append_of_pos hw]
  cases rest with
  | nil => simp
  | cons c rest =>
    have hc : Token.isWordChar c = false := (hrest c rfl).1
    simp [hc]

theorem stringBody?_word {w : List Char} (hw : ∀ x ∈ c :: w, Token.isWordChar x = true)
    (hrest : d.Apart rest) : d.stringBody? (c :: (w ++ rest)) = none := by
  have hquote : Token.isWordChar '\'' = false := by decide
  unfold stringBody?
  split
  · next heq =>
    obtain ⟨rfl, -⟩ := List.cons.inj heq
    simp [hquote] at hw
  · next cs heq =>
    -- a letter before a quote: the quote would be in the word or at the front of `rest`
    obtain ⟨-, heq⟩ := List.cons.inj heq
    cases w with
    | nil =>
      have hhead : rest.head? = some '\'' := congrArg List.head? heq
      exact absurd rfl (hrest _ hhead).2.1
    | cons x w =>
      obtain ⟨rfl, -⟩ := List.cons.inj heq
      simp [hquote] at hw
  · rfl

theorem reads_word {w : List Char} {t : Token} (hw : ∀ x ∈ w, Token.isWordChar x = true)
    (ht : Token.ofWord? w = some t) (hrest : d.Apart rest) : d.Reads w [t] rest := by
  cases w with
  | nil => cases ht
  | cons c w =>
    have hc := hw c List.mem_cons_self
    have hspan := span_of_apart hw hrest
    rw [List.cons_append, List.dropWhile_cons_of_pos hc] at hspan
    refine Reads.of_readToken? (t := some t) ?_
    rw [readToken?, stringBody?_word hw hrest, if_neg (by simp), if_pos hc, hspan.1, hspan.2, ht]
    rfl

theorem reads_keyword (k : Keyword) (hrest : d.Apart rest) :
    d.Reads k.text.toList [.keyword k] rest := by
  have hword : k.text.toList.all Token.isWordChar = true := by cases k <;> decide
  have hkeyword : Token.ofWord? k.text.toList = some (.keyword k) := by cases k <;> rfl
  exact reads_word (List.all_eq_true.mp hword) hkeyword hrest

theorem natural?_toDigits (n : Nat) : Token.natural? (Nat.toDigits 10 n) = some n := by
  have hdigits : (Nat.toDigits 10 n).all Char.isDigit = true :=
    List.all_eq_true.mpr fun c hc => Nat.isDigit_of_mem_toDigits (by decide) (by decide) hc
  rw [Token.natural?, if_pos ⟨Nat.toDigits_ne_nil, hdigits⟩, Nat.ofDigitChars_ten_toDigits]

theorem isWordChar_of_mem_toDigits {n : Nat} (h : c ∈ Nat.toDigits 10 n) :
    Token.isWordChar c = true := by
  have hdigit : c.isDigit = true := Nat.isDigit_of_mem_toDigits (by decide) (by decide) h
  simp [Token.isWordChar, Char.isAlphanum, hdigit]

theorem reads_natural (n : Nat) (hrest : d.Apart rest) :
    d.Reads (Nat.toDigits 10 n) [.integer n] rest := by
  have hword : Token.ofWord? (Nat.toDigits 10 n) = some (.integer n) := by
    rw [Token.ofWord?, natural?_toDigits]
  exact reads_word (fun _ => isWordChar_of_mem_toDigits) hword hrest

theorem reads_negative (n : Nat) (hrest : d.Apart rest) :
    d.Reads ('-' :: Nat.toDigits 10 n) [.integer (-n)] rest := by
  have hspan := span_of_apart (fun _ => isWordChar_of_mem_toDigits (n := n)) hrest
  have hsign : ¬('-' = d.delimiters.1) := by cases d <;> decide
  refine Reads.of_readToken? (t := some (.integer (-n))) ?_
  rw [readToken?, if_neg (by simp [stringBody?]), if_neg (by decide), if_neg hsign,
    if_pos (.inl rfl), hspan.1, hspan.2, natural?_toDigits]
  rfl

theorem reads_integer (n : Int) (hrest : d.Apart rest) :
    d.Reads (toString n).toList [.integer n] rest := by
  cases n with
  | ofNat n =>
    have htext : (toString (Int.ofNat n)).toList = Nat.toDigits 10 n := by
      show (toString n).toList = _
      rw [Nat.toString_eq_ofList_toDigits, String.toList_ofList]
    rw [htext]
    exact reads_natural n hrest
  | negSucc n =>
    have htext : (toString (Int.negSucc n)).toList = '-' :: Nat.toDigits 10 (n + 1) := by
      show ("-" ++ toString (n + 1)).toList = _
      rw [String.toList_append, Nat.toString_eq_ofList_toDigits,
        String.toList_ofList (l := Nat.toDigits 10 (n + 1))]
      rfl
    rw [htext]
    exact reads_negative (n + 1) hrest

theorem reads_boolean (b : Bool) (hrest : d.Apart rest) :
    d.Reads (d.booleanText b).toList ((Token.boolean b).units d) rest := by
  have hword : (d.booleanText b).toList.all Token.isWordChar = true := by
    cases d <;> cases b <;> decide
  cases d <;> cases b <;> exact reads_word (List.all_eq_true.mp hword) (by rfl) hrest

theorem reads_string {s : String} (hs : d = .mysql → '\\' ∉ s.toList) (hrest : d.Apart rest) :
    d.Reads (d.quoteString s).toList [.string s] rest := by
  have hquote : rest.head? ≠ some '\'' := fun h => (hrest _ h).2.1 rfl
  have hbody := stringBody?_quoteString d s rest
  have hread := readString?_quoteString hquote hs
  cases htext : (d.quoteString s).toList with
  | nil =>
    have hnone := stringBody?_quoteString d s []
    rw [htext] at hnone
    cases hnone
  | cons c cs =>
    rw [htext, List.cons_append] at hbody hread
    refine Reads.of_readToken? (t := some (.string s)) ?_
    rw [readToken?, hbody, if_pos Option.isSome_some, hread]
    rfl

theorem reads_name (s : String) (hrest : d.Apart rest) :
    d.Reads (d.quoteName s).toList [.name s] rest := by
  have hquote : rest.head? ≠ some d.delimiters.2 := fun h => (hrest _ h).2.2 rfl
  have hclose : closeString d.delimiters.2 false
      (Text.double d.delimiters.2 s.toList ++ d.delimiters.2 :: rest) = some (s.toList, rest) :=
    Select.closeString_double hquote nofun
  have hbody (cs : List Char) : d.stringBody? (d.delimiters.1 :: cs) = none := by cases d <;> rfl
  have hword : ¬ Token.isWordChar d.delimiters.1 = true := by cases d <;> decide
  rw [quoteName, Text.enclose, String.toList_ofList, List.cons_append]
  refine Reads.of_readToken? (t := some (.name s)) ?_
  rw [readToken?, hbody, if_neg (by simp), if_neg hword, if_pos rfl, List.append_assoc,
    List.singleton_append, hclose]
  simp only [Option.map_some, String.ofList_toList]

theorem reads_mark {t : Token} (h : Token.ofMark? c = some t) : d.Reads [c] [t] rest := by
  refine Reads.of_readToken? (t := some t) ?_
  unfold Token.ofMark? at h
  split at h <;> cases h <;> cases d <;> rfl

theorem reads_blank (hc : c = ' ' ∨ c = '\n') : d.Reads [c] [] rest := by
  refine Reads.of_readToken? (t := none) ?_
  obtain rfl | rfl := hc <;> cases d <;> rfl

theorem reads_blanks (n : Nat) : d.Reads (List.replicate n ' ') [] rest := by
  induction n with
  | zero => exact Reads.nil
  | succ n ih => exact (reads_blank (.inl rfl)).append ih

end Dialect

end TriplesSql
