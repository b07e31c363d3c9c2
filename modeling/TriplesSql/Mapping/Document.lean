import TriplesSql.Mapping.Reference

namespace TriplesSql

/-- Predicates with the objects that they lead to. Only the first entry of each list counts when
queries are made. -/
structure PredicateObjectMap where
  predicates : List TermMap
  objects : List TermMap
  references : List RefObjectMap
  deriving DecidableEq, Repr

namespace PredicateObjectMap

def predicate? (m : PredicateObjectMap) : Option TermMap := m.predicates.head?

def object? (m : PredicateObjectMap) : Option TermMap := m.objects.head?

def reference? (m : PredicateObjectMap) : Option RefObjectMap := m.references.head?

def predicateName (m : PredicateObjectMap) : String :=
  match m.predicate? with
  | none => "<no predicate>"
  | some predicate => predicate.text

def mapReferences (f : RefObjectMap → RefObjectMap) (m : PredicateObjectMap) :
    PredicateObjectMap := { m with references := m.references.map f }

end PredicateObjectMap

/-- A rule that makes triples with one subject out of each row of a table. -/
structure TriplesMap where
  id : String
  table : LogicalTable
  subject : TermMap
  predicateObjects : List PredicateObjectMap
  deriving DecidableEq, Repr

namespace TriplesMap

/-- The term maps of a rule: the subject, then predicates and objects of each predicate-object
map. References are not among them. -/
def termMaps (t : TriplesMap) : List TermMap :=
  t.subject :: t.predicateObjects.flatMap fun m => m.predicates ++ m.objects

def references (t : TriplesMap) : List RefObjectMap := t.predicateObjects.flatMap (·.references)

def mapReferences (f : RefObjectMap → RefObjectMap) (t : TriplesMap) : TriplesMap :=
  { t with predicateObjects := t.predicateObjects.map (·.mapReferences f) }

@[simp]
theorem id_mapReferences (f : RefObjectMap → RefObjectMap) (t : TriplesMap) :
    (t.mapReferences f).id = t.id := rfl

@[simp]
theorem termMaps_mapReferences (f : RefObjectMap → RefObjectMap) (t : TriplesMap) :
    (t.mapReferences f).termMaps = t.termMaps := by
  simp only [termMaps, mapReferences, List.flatMap_map, PredicateObjectMap.mapReferences]

@[simp]
theorem references_mapReferences (f : RefObjectMap → RefObjectMap) (t : TriplesMap) :
    (t.mapReferences f).references = t.references.map f := by
  simp only [references, mapReferences, List.flatMap_map, List.map_flatMap,
    PredicateObjectMap.mapReferences]

end TriplesMap

structure Document where
  rules : List TriplesMap
  deriving DecidableEq, Repr

namespace Document

inductive Defect where
  | duplicateRule (id : String)
  | malformedTemplate (e : Template.Malformed)
  | unknownParent (rule parent : String)
  deriving DecidableEq, Repr

def Defect.message : Defect → String
  | .duplicateRule id => "Duplicate triples map id: " ++ id
  | .malformedTemplate e => e.message
  | .unknownParent rule parent =>
    "Triples map '" ++ rule ++ "' references unknown parent triples map '" ++ parent ++ "'"

def get? (d : Document) (id : String) : Option TriplesMap := d.rules.find? (·.id = id)

def last? (d : Document) (id : String) : Option TriplesMap := d.rules.reverse.find? (·.id = id)

def checkTemplates (ms : List TermMap) : Except Defect Unit :=
  (ms.filterMap TermMap.template?).forM fun text =>
    match Template.parse text with
    | .ok _ => .ok ()
    | .error e => .error (.malformedTemplate e)

def checkRules (seen : List String) : List TriplesMap → Except Defect Unit
  | [] => .ok ()
  | t :: ts => do
    if t.id ∈ seen then .error (.duplicateRule t.id)
    checkTemplates t.termMaps
    checkRules (t.id :: seen) ts

def validate (d : Document) : Except Defect Unit := checkRules [] d.rules

/-- A reference with the table and the subject of its parent. One to a parent that is not in the
document is left as it is. -/
def linkReference (d : Document) (r : RefObjectMap) : RefObjectMap :=
  match d.last? r.parent with
  | none => r
  | some parent => { r with parentTable := some parent.table, parentSubject := some parent.subject }

/-- The document with all its references linked. Where names repeat the last rule counts. -/
def link (d : Document) : Document :=
  ⟨d.rules.map (·.mapReferences d.linkReference)⟩

def checkReferences (d : Document) : Except Defect Unit :=
  d.rules.forM fun t => t.references.forM fun r =>
    if (d.get? r.parent).isNone then .error (.unknownParent t.id r.parent) else .ok ()

end Document

end TriplesSql
