import TriplesSql.Json.Number

/-!
# JSON values

A JSON value as it is written: members of an object keep their order and may repeat. A string in
which an escape names one half of a surrogate pair without the other is no text.
-/

namespace TriplesSql

/-- A JSON value. A string that is no text is `none`. -/
inductive Json where
  | null
  | boolean (b : Bool)
  | number (negative : Bool) (size : Json.Numeral)
  | string (s : Option String)
  | array (items : List Json)
  | object (members : List (Option String × Json))
  deriving Repr

namespace Json

def text (s : String) : Json := .string (some s)

def record (members : List (String × Json)) : Json :=
  .object (members.map fun (name, v) => (some name, v))

mutual

def depth : Json → Nat
  | .array items => 1 + depthOfItems items
  | .object members => 1 + depthOfMembers members
  | _ => 0

def depthOfItems : List Json → Nat
  | [] => 0
  | v :: vs => max (depth v) (depthOfItems vs)

def depthOfMembers : List (Option String × Json) → Nat
  | [] => 0
  | (_, v) :: rest => max (depth v) (depthOfMembers rest)

end

mutual

/-- Whether every string in a value is a text and every number is finite. -/
def isExact : Json → Bool
  | .number _ size => size.isFinite
  | .string s => s.isSome
  | .array items => itemsAreExact items
  | .object members => membersAreExact members
  | _ => true

def itemsAreExact : List Json → Bool
  | [] => true
  | v :: vs => isExact v && itemsAreExact vs

def membersAreExact : List (Option String × Json) → Bool
  | [] => true
  | (name, v) :: rest => name.isSome && isExact v && membersAreExact rest

end

end Json

end TriplesSql
