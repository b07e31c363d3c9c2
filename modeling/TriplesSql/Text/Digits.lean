/-!
# Digits

Digits of base sixteen are read in either case and written in one; a byte may be written with a
percent sign and two of them. The size of a number that is written with decimal digits and an
exponent of ten is compared with the bound of a binary floating-point number of 64 bits.
-/

namespace TriplesSql.Text

namespace Hexadecimal

def value? (c : Char) : Option Nat :=
  if '0' ≤ c ∧ c ≤ '9' then some (c.toNat - '0'.toNat)
  else if 'a' ≤ c ∧ c ≤ 'f' then some (c.toNat - 'a'.toNat + 10)
  else if 'A' ≤ c ∧ c ≤ 'F' then some (c.toNat - 'A'.toNat + 10)
  else none

def number? (cs : List Char) : Option Nat :=
  cs.foldlM (fun n c => (value? c).map (16 * n + ·)) 0

def upperDigit (n : Nat) : Char :=
  if n < 10 then Char.ofNat ('0'.toNat + n) else Char.ofNat ('A'.toNat + n - 10)

def lowerDigit (n : Nat) : Char :=
  if n < 10 then Char.ofNat ('0'.toNat + n) else Char.ofNat ('a'.toNat + n - 10)

end Hexadecimal

namespace Percent

def byte? (high low : Char) : Option UInt8 :=
  match Hexadecimal.value? high, Hexadecimal.value? low with
  | some h, some l => some (UInt8.ofNat (16 * h + l))
  | _, _ => none

def isUnreserved (c : Char) : Bool :=
  c.isAlphanum || c == '-' || c == '.' || c == '_' || c == '~'

def encodeByte (b : UInt8) : List Char :=
  ['%', Hexadecimal.upperDigit (b.toNat / 16), Hexadecimal.upperDigit (b.toNat % 16)]

def encodeChar (c : Char) : List Char :=
  if isUnreserved c then [c] else (String.utf8EncodeChar c).flatMap encodeByte

def encode (s : String) : String := String.ofList (s.toList.flatMap encodeChar)

def bytes : List Char → List UInt8
  | '%' :: h :: l :: cs =>
    match byte? h l with
    | some b => b :: bytes cs
    | none => 37 :: bytes (h :: l :: cs)
  | c :: cs => String.utf8EncodeChar c ++ bytes cs
  | [] => []

/-- The text that an encoded text stands for, if its bytes are UTF-8. -/
def decode? (cs : List Char) : Option String :=
  String.fromUTF8? ⟨(bytes cs).toArray⟩

end Percent

/-- The number `digits * 10 ^ exponent`. -/
structure Decimal where
  digits : Nat
  exponent : Int
  deriving DecidableEq, Repr

namespace Decimal

/-- The least number whose nearest 64-bit floating-point number is infinite. -/
def overflow : Nat := Nat.pow 2 1024 - Nat.pow 2 970

/-- Whether the nearest 64-bit floating-point number is finite. A number with a negative exponent is
compared exactly only if its digits are many; otherwise it is far below the bound. -/
def isFinite (d : Decimal) : Bool :=
  d.digits == 0 || match d.exponent with
    | .ofNat k => k ≤ 308 && d.digits * Nat.pow 10 k < overflow
    | .negSucc k => d.digits.log2 ≤ 3 * k + 1000 || d.digits < overflow * Nat.pow 10 (k + 1)

def digitValue (c : Char) : Nat := c.toNat - '0'.toNat

def valueOf (cs : List Char) : Nat := cs.foldl (fun n c => 10 * n + digitValue c) 0

def ofParts (whole fraction : List Char) (exponent : Int) : Decimal :=
  ⟨valueOf (whole ++ fraction), exponent - fraction.length⟩

end Decimal

end TriplesSql.Text
