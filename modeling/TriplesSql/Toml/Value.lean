import TriplesSql.Text.Digits

/-!
# TOML values

The values that a settings file can hold. Of a float its size is kept, which infinities and the
value that is no number do not have. An integer has no value if the mark of its base stands without
digits; that counts only where the value is needed.
-/

namespace TriplesSql

inductive Toml where
  | string (s : String)
  | integer (n : Option Int)
  | float (size : Option Text.Decimal)
  | boolean (b : Bool)
  | datetime
  | array (items : List Toml)
  | table (entries : List (String × Toml))
  deriving Repr

namespace Toml

/-- Whether an integer fits into 128 bits, with or without a sign. -/
def fitsInteger (n : Int) : Bool := -Int.pow 2 127 ≤ n && n < Int.pow 2 128

mutual

/-- Whether all numbers in a value are there and in range. -/
def inRange : Toml → Bool
  | .integer n => n.any fitsInteger
  | .float (some size) => size.isFinite
  | .array items => itemsInRange items
  | .table entries => entriesInRange entries
  | _ => true

def itemsInRange : List Toml → Bool
  | [] => true
  | v :: vs => inRange v && itemsInRange vs

def entriesInRange : List (String × Toml) → Bool
  | [] => true
  | (_, v) :: rest => inRange v && entriesInRange rest

end

def string? : Toml → Option String
  | .string s => some s
  | _ => none

end Toml

end TriplesSql
