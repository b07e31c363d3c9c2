import TriplesSql.Text.Digits

/-!
# JSON numbers

A number keeps its digits and its exponent as they are written. Its value is taken with limited
precision: the digits fill a word of 64 bits, further digits only count towards the exponent, the
word and the power of ten are rounded to 53 bits each, and their product has to be finite.
-/

namespace TriplesSql.Json

/-- A number without its sign: the digits in front of and behind the point, and the exponent where
one stands. -/
structure Numeral where
  whole : List Char
  fraction : List Char
  power : Option Int
  deriving DecidableEq, Repr

namespace Numeral

/-- Appends digits to a word of 64 bits as long as the word holds them, and gives the digits that
are left. -/
def fill (word : Nat) : List Char → Nat × List Char
  | [] => (word, [])
  | c :: cs =>
    let next := 10 * word + Text.Decimal.digitValue c
    if next < Nat.pow 2 64 then fill next cs else (word, c :: cs)

/-- The nearest number with 53 significant bits; of two that are equally near, the even one. -/
def nearest (n : Nat) : Nat :=
  let unit := Nat.pow 2 (n.log2 + 1 - 53)
  let q := n / unit
  let up := unit < 2 * (n % unit) || (unit == 2 * (n % unit) && q % 2 == 1)
  (if up then q + 1 else q) * unit

def greatestPower : Int := 308

def isFiniteProduct (word : Nat) (power : Int) : Bool :=
  power < 0 || word == 0
    || (power ≤ greatestPower
      && nearest word * nearest (Nat.pow 10 power.toNat) < Text.Decimal.overflow)

/-- The greatest exponent that is read. A greater one stands for no finite number but zero. -/
def greatestExponent : Int := Int.pow 2 31 - 1

def isFinite (n : Numeral) : Bool :=
  let (front, dropped) := fill 0 n.whole
  let (word, ignored) := fill front n.fraction
  let point : Int := dropped.length - (n.fraction.length - ignored.length : Int)
  match n.power with
  | none => isFiniteProduct word point
  | some power =>
    if greatestExponent < power.natAbs then word == 0 || power < 0
    else isFiniteProduct word (point + power)

def print (n : Numeral) : List Char :=
  n.whole ++ (if n.fraction.isEmpty then [] else '.' :: n.fraction)
    ++ (match n.power with
      | none => []
      | some power => 'e' :: (toString power).toList)

end Numeral

end TriplesSql.Json
