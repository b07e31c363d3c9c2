import TriplesSql.Files
import TriplesSql.Json.Decode
import TriplesSql.Json.Printer
import TriplesSql.Json.Reader
import TriplesSql.Mapping.Document

/-!
# Mapping documents as JSON

Writing gives every list, and the table and subject of a parent only where they are known. Reading
skips what it does not know and takes absent lists as empty. A document is loaded from a file that
has to be there and to hold a valid document.
-/

namespace TriplesSql

open Json

def TermMap.toJson : TermMap → Json
  | .constant s => .record [("constant", .text s)]
  | .column s => .record [("column", .text s)]
  | .template s => .record [("template", .text s)]

def TermMap.ofJson? : Json → Option TermMap
  | .object [(some kind, v)] =>
    match kind with
    | "constant" => v.string?.map .constant
    | "column" => v.string?.map .column
    | "template" => v.string?.map .template
    | _ => none
  | _ => none

def LogicalTable.toJson (t : LogicalTable) : Json :=
  .record (("kind", .text t.kind) :: match t with
    | .tableName name => [("name", .text name)]
    | .queryString sql => [("query", .text sql)]
    | .unsupported => [])

/-- The number of arrays and objects that may stand inside each other around an exact value. -/
def depthLimit : Nat := 127

/-- The one content member of a kind of table, from the members beside the kind or from the items
behind it. -/
def LogicalTable.content? (name : String) : Json → Option String
  | .array [_, v] => v.string?
  | .object members => do
    let fields ← fields? [name] (.object members)
    fields.required name string?
  | _ => none

def LogicalTable.ofKind? (kind : String) (v : Json) : Option LogicalTable :=
  match kind, v with
  | "table_name", v => (content? "name" v).map .tableName
  | "query_string", v => (content? "query" v).map .queryString
  | _, .array [_] => some .unsupported
  | _, .object _ => some .unsupported
  | _, _ => none

/-- Reads a table that stands inside a number of arrays and objects. All of it has to be exact,
also the members that are skipped. -/
def LogicalTable.ofJson? (outside : Nat) (v : Json) : Option LogicalTable :=
  if v.isExact && outside + v.depth ≤ depthLimit then
    match v with
    | .array (kind :: _) => do ofKind? (← kind.string?) v
    | .object members => do
      let fields ← fields? ["kind"] (.object members)
      ofKind? (← fields.required "kind" string?) v
    | _ => none
  else none

def JoinCondition.toJson (c : JoinCondition) : Json :=
  .record [("child", .text c.child), ("parent", .text c.parent)]

def JoinCondition.ofJson? (v : Json) : Option JoinCondition := do
  let fields ← fields? ["child", "parent"] v
  return ⟨← fields.required "child" string?, ← fields.required "parent" string?⟩

def present {α : Type} (name : String) (write : α → Json) : Option α → List (String × Json)
  | none => []
  | some a => [(name, write a)]

def RefObjectMap.toJson (r : RefObjectMap) : Json :=
  .record ([("parent_triples_map", .text r.parent),
      ("join_conditions", .array (r.conditions.map JoinCondition.toJson))]
    ++ present "parent_logical_table" LogicalTable.toJson r.parentTable
    ++ present "parent_subject" TermMap.toJson r.parentSubject)

def RefObjectMap.ofJson? (outside : Nat) (v : Json) : Option RefObjectMap := do
  let fields ← fields?
    ["parent_triples_map", "join_conditions", "parent_logical_table", "parent_subject"] v
  return {
    parent := ← fields.required "parent_triples_map" string?
    conditions := ← fields.withDefault "join_conditions" [] (listOf JoinCondition.ofJson?)
    parentTable := ← fields.withDefault "parent_logical_table" none
      (nullable (LogicalTable.ofJson? (outside + 1)))
    parentSubject := ← fields.withDefault "parent_subject" none (nullable TermMap.ofJson?) }

def PredicateObjectMap.toJson (m : PredicateObjectMap) : Json :=
  .record [("predicate_maps", .array (m.predicates.map TermMap.toJson)),
    ("object_maps", .array (m.objects.map TermMap.toJson)),
    ("ref_object_maps", .array (m.references.map RefObjectMap.toJson))]

def PredicateObjectMap.ofJson? (outside : Nat) (v : Json) : Option PredicateObjectMap := do
  let fields ← fields? ["predicate_maps", "object_maps", "ref_object_maps"] v
  return {
    predicates := ← fields.withDefault "predicate_maps" [] (listOf TermMap.ofJson?)
    objects := ← fields.withDefault "object_maps" [] (listOf TermMap.ofJson?)
    references := ← fields.withDefault "ref_object_maps" []
      (listOf (RefObjectMap.ofJson? (outside + 2))) }

def TriplesMap.toJson (t : TriplesMap) : Json :=
  .record [("id", .text t.id), ("logical_table", t.table.toJson), ("subject_map", t.subject.toJson),
    ("predicate_object_maps", .array (t.predicateObjects.map PredicateObjectMap.toJson))]

def TriplesMap.ofJson? (outside : Nat) (v : Json) : Option TriplesMap := do
  let fields ← fields? ["id", "logical_table", "subject_map", "predicate_object_maps"] v
  return {
    id := ← fields.required "id" string?
    table := ← fields.required "logical_table" (LogicalTable.ofJson? (outside + 1))
    subject := ← fields.required "subject_map" TermMap.ofJson?
    predicateObjects := ← fields.withDefault "predicate_object_maps" []
      (listOf (PredicateObjectMap.ofJson? (outside + 2))) }

namespace Document

def toJson (d : Document) : Json :=
  .record [("triples_maps", .array (d.rules.map TriplesMap.toJson))]

def ofJson? (v : Json) : Option Document := do
  let fields ← fields? ["triples_maps"] v
  return ⟨← fields.withDefault "triples_maps" [] (listOf (TriplesMap.ofJson? 2))⟩

def toText (d : Document) : String := d.toJson.toText

def ofText? (s : String) : Option Document := (Json.ofText? s).bind ofJson?

inductive LoadError where
  | malformed
  | defect (e : Defect)
  deriving DecidableEq, Repr

/-- Reads the text of a document, checks that it is valid, and links it. -/
def load (s : String) : Except LoadError Document :=
  match ofText? s with
  | none => .error .malformed
  | some d =>
    match d.validate with
    | .error e => .error (.defect e)
    | .ok () => .ok d.link

def LoadError.message : LoadError → String
  | .malformed => "Failed to parse mapping document: no mapping document"
  | .defect e => e.message

inductive FileError where
  | unreadable (reason : String)
  | text (e : LoadError)
  deriving DecidableEq, Repr

def FileError.message : FileError → String
  | .unreadable reason => "Failed to read mapping file: " ++ reason
  | .text e => e.message

def loadFile (files : String → Entry) (path : String) : Except FileError Document :=
  match (files path).read with
  | .error reason => .error (.unreadable reason)
  | .ok s => (load s).mapError .text

end Document

end TriplesSql
