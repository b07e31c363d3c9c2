import TriplesSql.Json.Value

/-!
# Taking JSON values apart

A record is an object or an array of its fields in a fixed order. Members of an object that are no
fields are skipped, a field must not repeat, and an array must not have more items than there are
fields.
-/

namespace TriplesSql.Json

abbrev Fields := List (String × Json)

def string? : Json → Option String
  | .string s => s
  | _ => none

def listOf {α : Type} (item : Json → Option α) : Json → Option (List α)
  | .array vs => vs.mapM item
  | _ => none

def nullable {α : Type} (value : Json → Option α) : Json → Option (Option α)
  | .null => some none
  | v => (value v).map some

def namedMembers (members : List (Option String × Json)) : Option Fields :=
  members.mapM fun (name, v) => name.map (·, v)

/-- The fields of a record with the given names, in the order of an array. -/
def fields? (names : List String) : Json → Option Fields
  | .object members => do
    let known := (← namedMembers members).filter fun (name, _) => names.contains name
    if (known.map Prod.fst).Nodup then some known else none
  | .array items => if items.length ≤ names.length then some (names.zip items) else none
  | _ => none

def Fields.required {α : Type} (fields : Fields) (name : String) (value : Json → Option α) :
    Option α :=
  (List.lookup name fields).bind value

/-- A field that stands for a default where it is absent. -/
def Fields.withDefault {α : Type} (fields : Fields) (name : String) (absent : α)
    (value : Json → Option α) : Option α :=
  match List.lookup name fields with
  | none => some absent
  | some v => value v

end TriplesSql.Json
