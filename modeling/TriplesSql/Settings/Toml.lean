import TriplesSql.Settings.Basic
import TriplesSql.Toml.Document

/-!
# Settings as TOML

The settings are the entries of the table `unfold`. What is absent stands for its default, and what
is not known is skipped. In place of the table there may be an array of its values in order, or a
date or time, which stands for all defaults.
-/

namespace TriplesSql

namespace Settings

def dialect? (v : Toml) : Option Dialect := do (Dialect.ofName (← v.string?)).toOption

/-- Reads a policy: its name, or a table with the name and nothing in it. -/
def policy? : Toml → Option CollisionPolicy
  | .string s => CollisionPolicy.ofName? s
  | .table [(name, .table [])] | .table [(name, .array [])] => CollisionPolicy.ofName? name
  | _ => none

def orDefault {α : Type} (absent : α) (read : Toml → Option α) : Option Toml → Option α
  | none => some absent
  | some v => read v

def ofValues? (dialect aliasPrefix policy : Option Toml) : Option Settings := do
  let absent : Settings := {}
  return {
    dialect := ← orDefault absent.dialect dialect? dialect
    aliasPrefix := ← orDefault absent.aliasPrefix Toml.string? aliasPrefix
    onCollision := ← orDefault absent.onCollision policy? policy }

def names : List String := ["dialect", "alias_prefix", "on_alias_collision"]

/-- Reads settings from a table, an array, or a date or time. The items of an array behind those
that stand for settings do not count. -/
def ofToml? : Toml → Option Settings
  | .table entries =>
    if entries.all fun (name, v) => names.contains name || v.inRange then
      ofValues? (entries.lookup "dialect") (entries.lookup "alias_prefix")
        (entries.lookup "on_alias_collision")
    else none
  | .array values => ofValues? values[0]? values[1]? values[2]?
  | .datetime => some {}
  | _ => none

def ofEntries? (entries : List (String × Toml)) : Option Settings :=
  if entries.all fun (name, v) => name == "unfold" || v.inRange then
    orDefault {} ofToml? (entries.lookup "unfold")
  else none

inductive TextError where
  | malformed
  | unusable (e : Unusable)
  deriving DecidableEq, Repr

def ofText (s : String) : Except TextError Settings :=
  match (Toml.ofText? s).bind ofEntries? with
  | none => .error .malformed
  | some found =>
    match found.validate with
    | .error e => .error (.unusable e)
    | .ok () => .ok found

end Settings

end TriplesSql
