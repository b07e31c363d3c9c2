import TriplesSql.Command.Line
import TriplesSql.Json.Printer
import TriplesSql.Mapping.Codec
import TriplesSql.Settings.Lookup
import TriplesSql.Unfold.Unfolder

namespace TriplesSql.Command

structure Surroundings where
  files : String → Entry
  places : Settings.Places

structure Outcome where
  code : Nat
  output : String
  errors : String
  deriving DecidableEq, Repr

namespace Outcome

def success (lines : List String) : Outcome :=
  ⟨0, String.join (lines.map (· ++ "\n")), ""⟩

def failure (message : String) : Outcome := ⟨1, "", message ++ "\n"⟩

def misuse (usage : List String) : Outcome :=
  ⟨2, "", String.join (usage.map (· ++ "\n"))⟩

@[simp]
theorem code_success (lines : List String) : (success lines).code = 0 := rfl

@[simp]
theorem code_failure (message : String) : (failure message).code = 1 := rfl

end Outcome

def usage : List String :=
  ["Unfold R2RML triples maps into multi-dialect SQL queries",
    "",
    "Usage:",
    "  r2rml-unfold unfold <FILE> [-d|--dialect postgres|mysql|tsql|duckdb] [-c|--config <FILE>]",
    "                      [-t|--triples-map <ID> [-s|--subject <VALUE>]] [--aliases]",
    "  r2rml-unfold validate <FILE>",
    "  r2rml-unfold --help | --version"]

def versionLine : String := "r2rml-unfold 0.1.0"

section command

variable [SqlReader]

def loadSettings (around : Surroundings) (r : UnfoldRequest) : Except String Settings :=
  let loaded := match r.config with
    | some path => Settings.loadFile around.files path
    | none => Settings.load around.files around.places
  match loaded with
  | .error e => .error ("Configuration error: " ++ e.message)
  | .ok s => .ok { s with dialect := r.dialect.getD s.dialect }

def loadDocument (around : Surroundings) (path : String) : Except String Document :=
  (Document.loadFile around.files path).mapError fun e =>
    "Error loading mapping '" ++ path ++ "': " ++ e.message

def queryLines (id : String) (q : Query) : List String := ["-- " ++ id, q.sql ++ ";"]

def unfoldOne (u : Unfolder) (d : Document) (id : String) (subject : Option String) :
    Except String (List String × Registry) :=
  match d.get? id with
  | none => .error ("Triples map not found: " ++ id)
  | some t =>
    match (u.unfoldRule t subject).value with
    | (.error e, _) => .error ("Unfolding error: " ++ e.message)
    | (.ok (some q), u) => .ok (queryLines t.id q, u.registry)
    | (.ok none, u) =>
      .ok (["-- " ++ t.id ++ ": no rows can produce the requested subject"], u.registry)

def unfoldEach (u : Unfolder) (d : Document) : List String × Registry :=
  let (queries, u) := (u.unfoldDocument d).value
  (queries.toList.flatMap fun (id, q) => queryLines id q ++ [""], u.registry)

def registryLine (r : Registry) : String := r.summary.toJson.toPrettyText

def runUnfold (around : Surroundings) (r : UnfoldRequest) : Except String (List String) := do
  let s ← loadSettings around r
  let d ← loadDocument around r.file
  let u := Unfolder.new s
  let (lines, registry) ← match r.rule with
    | some id => unfoldOne u d id r.subject
    | none => .ok (unfoldEach u d)
  return lines ++ if r.showAliases then [registryLine registry] else []

/-- Checks that a document can be loaded and that the parents of its references are in it. -/
def runValidate (around : Surroundings) (path : String) : Except String (List String) := do
  let d ← loadDocument around path
  d.checkReferences.mapError fun e => "Validation error: " ++ e.message
  return ["File: " ++ path ++ " (" ++ toString d.rules.length ++ " triples maps)"]

def Request.run (around : Surroundings) : Request → Outcome
  | .help => .success usage
  | .version => .success [versionLine]
  | .unfold r =>
    match runUnfold around r with
    | .ok lines => .success lines
    | .error message => .failure message
  | .validate path =>
    match runValidate around path with
    | .ok lines => .success lines
    | .error message => .failure message

def run (around : Surroundings) (args : List String) : Outcome :=
  match Request.ofArguments? args with
  | none => .misuse usage
  | some request => request.run around

end command

/-- The reader that the program runs with. -/
instance reader : SqlReader := ⟨Select.read⟩

end TriplesSql.Command
