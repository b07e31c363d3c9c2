import TriplesSql.Unfold.Rule

namespace TriplesSql

open Std

variable [SqlReader]

/-- Settings and the names given so far. -/
structure Unfolder where
  settings : Settings
  registry : Registry

namespace Unfolder

def new (s : Settings) : Unfolder := ⟨s, ∅⟩

def ofDialect (d : Dialect) : Unfolder := new { dialect := d }

def absorb (u : Unfolder) (r : Registry) : Unfolder := { u with registry := u.registry.merge r }

def unfoldRule (u : Unfolder) (t : TriplesMap) (subject : Option String) :
    Logged (Except UnfoldError (Option Query) × Unfolder) :=
  let found := t.unfold u.settings subject
  match found.value with
  | .error e => ⟨(.error e, u), found.events⟩
  | .ok none => ⟨(.ok none, u), found.events⟩
  | .ok (some rule) => ⟨(.ok (some rule.query), u.absorb rule.registry), found.events⟩

def unfoldSubject (u : Unfolder) (t : TriplesMap) :
    Logged (Except UnfoldError Query × Unfolder) :=
  let found := t.unfoldSubject u.settings
  match found.value with
  | .error e => ⟨(.error e, u), found.events⟩
  | .ok rule => ⟨(.ok rule.query, u.absorb rule.registry), found.events⟩

abbrev Queries := ExtTreeMap String Query

def addRule (done : Logged (Queries × Unfolder)) (t : TriplesMap) :
    Logged (Queries × Unfolder) :=
  let found := done.value.2.unfoldRule t none
  let events := done.events ++ found.events
  match found.value with
  | (.ok (some q), u) => ⟨(done.value.1.insert t.id q, u), events⟩
  | (.ok none, u) => ⟨(done.value.1, u), events⟩
  | (.error e, u) => ⟨(done.value.1, u), events ++ [.ruleFailed t.id e]⟩

/-- The queries of all rules of a document that give one. Of rules with one name the last one that
gives a query counts. -/
def unfoldDocument (u : Unfolder) (d : Document) : Logged (Queries × Unfolder) :=
  d.rules.foldl addRule ⟨(∅, u), []⟩

end Unfolder

end TriplesSql
