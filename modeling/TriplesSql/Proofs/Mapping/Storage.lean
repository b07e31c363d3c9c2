import TriplesSql.Mapping.Codec
import TriplesSql.Proofs.Json.RoundTrip

namespace TriplesSql

namespace Json

theorem namedMembers_named (ms : List (String × Json)) : namedMembers (named ms) = some ms := by
  unfold namedMembers named
  induction ms with
  | nil => rfl
  | cons m ms ih =>
    rw [List.map_cons, List.mapM_cons, ih]
    rfl

theorem fields?_record {names : List String} {ms : List (String × Json)}
    (hknown : ∀ m ∈ ms, m.1 ∈ names) (hnodup : (ms.map Prod.fst).Nodup) :
    fields? names (.record ms) = some ms := by
  have hfilter : ms.filter (fun m => names.contains m.1) = ms := by
    rw [List.filter_eq_self]
    intro m hm
    simpa using hknown m hm
  change (namedMembers (named ms)).bind (fun all =>
    if ((all.filter fun m => names.contains m.1).map Prod.fst).Nodup then
      some (all.filter fun m => names.contains m.1) else none) = _
  rw [namedMembers_named, Option.bind_some, hfilter, if_pos hnodup]

theorem listOf_array {α : Type} {read : Json → Option α} {write : α → Json}
    (h : ∀ a, read (write a) = some a) (as : List α) :
    listOf read (.array (as.map write)) = some as := by
  change (as.map write).mapM read = some as
  induction as with
  | nil => rfl
  | cons a as ih =>
    rw [List.map_cons, List.mapM_cons, h, ih]
    rfl

theorem isTextual_array {α : Type} {write : α → Json} (h : ∀ a, IsTextual (write a)) (as : List α) :
    IsTextual (.array (as.map write)) := by
  refine .array fun v hv => ?_
  obtain ⟨a, -, rfl⟩ := List.mem_map.mp hv
  exact h a

end Json

open Json

theorem TermMap.ofJson?_toJson (m : TermMap) : ofJson? m.toJson = some m := by
  cases m <;> rfl

@[simp]
theorem TermMap.isTextual_toJson (m : TermMap) : IsTextual m.toJson := by
  cases m with
  | constant s => exact .record (by simp)
  | column s => exact .record (by simp)
  | template s => exact .record (by simp)

theorem LogicalTable.ofJson?_toJson {outside : Nat} (h : outside < depthLimit) (t : LogicalTable) :
    ofJson? outside t.toJson = some t := by
  have hexact : t.toJson.isExact = true := by cases t <;> rfl
  have hdepth : t.toJson.depth = 1 := by cases t <;> rfl
  have hlimit : outside + 1 ≤ depthLimit := h
  unfold ofJson?
  rw [if_pos (by simp [hexact, hdepth, hlimit])]
  cases t <;> rfl

@[simp]
theorem LogicalTable.isTextual_toJson (t : LogicalTable) : IsTextual t.toJson := by
  cases t with
  | tableName name => exact .record (by simp)
  | queryString sql => exact .record (by simp)
  | unsupported => exact .record (by simp)

theorem JoinCondition.ofJson?_toJson (c : JoinCondition) : ofJson? c.toJson = some c := by
  cases c
  rfl

@[simp]
theorem JoinCondition.isTextual_toJson (c : JoinCondition) : IsTextual c.toJson :=
  .record (by simp)

theorem LogicalTable.nullable_toJson {outside : Nat} (h : outside < depthLimit) (t : LogicalTable) :
    nullable (ofJson? outside) t.toJson = some (some t) := by
  change (ofJson? outside t.toJson).map some = some (some t)
  rw [ofJson?_toJson h, Option.map_some]

theorem TermMap.nullable_toJson (m : TermMap) : nullable ofJson? m.toJson = some (some m) := by
  cases m <;> rfl

def RefObjectMap.fields (r : RefObjectMap) : Fields :=
  [("parent_triples_map", .text r.parent),
      ("join_conditions", .array (r.conditions.map JoinCondition.toJson))]
    ++ present "parent_logical_table" LogicalTable.toJson r.parentTable
    ++ present "parent_subject" TermMap.toJson r.parentSubject

theorem RefObjectMap.fields?_toJson (r : RefObjectMap) :
    fields? ["parent_triples_map", "join_conditions", "parent_logical_table", "parent_subject"]
      r.toJson = some r.fields := by
  refine fields?_record ?_ ?_
  · cases r.parentTable <;> cases r.parentSubject <;> simp [present]
  · cases r.parentTable <;> cases r.parentSubject <;> simp [present]

theorem RefObjectMap.ofJson?_toJson {outside : Nat} (h : outside + 1 < depthLimit)
    (r : RefObjectMap) : ofJson? outside r.toJson = some r := by
  have hparent : r.fields.required "parent_triples_map" string? = some r.parent := rfl
  have hconditions : r.fields.withDefault "join_conditions" [] (listOf JoinCondition.ofJson?)
      = some r.conditions := listOf_array JoinCondition.ofJson?_toJson r.conditions
  have htable : r.fields.withDefault "parent_logical_table" none
      (nullable (LogicalTable.ofJson? (outside + 1))) = some r.parentTable := by
    unfold fields
    cases r.parentTable with
    | none => cases r.parentSubject <;> rfl
    | some t => exact LogicalTable.nullable_toJson h t
  have hsubject : r.fields.withDefault "parent_subject" none (nullable TermMap.ofJson?)
      = some r.parentSubject := by
    unfold fields
    cases r.parentSubject with
    | none => cases r.parentTable <;> rfl
    | some m => cases r.parentTable <;> exact TermMap.nullable_toJson m
  unfold ofJson?
  rw [fields?_toJson, Option.bind_eq_bind, Option.bind_some, hparent, hconditions, htable, hsubject]
  rfl

@[simp]
theorem RefObjectMap.isTextual_toJson (r : RefObjectMap) : IsTextual r.toJson := by
  refine .record ?_
  have hconditions := isTextual_array JoinCondition.isTextual_toJson r.conditions
  cases r.parentTable <;> cases r.parentSubject <;>
    simp [present, hconditions]

def PredicateObjectMap.fields (m : PredicateObjectMap) : Fields :=
  [("predicate_maps", .array (m.predicates.map TermMap.toJson)),
    ("object_maps", .array (m.objects.map TermMap.toJson)),
    ("ref_object_maps", .array (m.references.map RefObjectMap.toJson))]

theorem PredicateObjectMap.ofJson?_toJson {outside : Nat} (h : outside + 3 < depthLimit)
    (m : PredicateObjectMap) : ofJson? outside m.toJson = some m := by
  have hfields : fields? ["predicate_maps", "object_maps", "ref_object_maps"] m.toJson
      = some m.fields := fields?_record (by simp) (by simp)
  have hpredicates : m.fields.withDefault "predicate_maps" [] (listOf TermMap.ofJson?)
      = some m.predicates := listOf_array TermMap.ofJson?_toJson m.predicates
  have hobjects : m.fields.withDefault "object_maps" [] (listOf TermMap.ofJson?)
      = some m.objects := listOf_array TermMap.ofJson?_toJson m.objects
  have hreference : ∀ r : RefObjectMap, RefObjectMap.ofJson? (outside + 2) r.toJson = some r :=
    RefObjectMap.ofJson?_toJson h
  have hreferences : m.fields.withDefault "ref_object_maps" []
      (listOf (RefObjectMap.ofJson? (outside + 2))) = some m.references :=
    listOf_array hreference m.references
  unfold ofJson?
  rw [hfields, Option.bind_eq_bind, Option.bind_some, hpredicates, hobjects, hreferences]
  rfl

@[simp]
theorem PredicateObjectMap.isTextual_toJson (m : PredicateObjectMap) : IsTextual m.toJson :=
  .record (by
    simp [isTextual_array TermMap.isTextual_toJson, isTextual_array RefObjectMap.isTextual_toJson])

def TriplesMap.fields (t : TriplesMap) : Fields :=
  [("id", .text t.id), ("logical_table", t.table.toJson), ("subject_map", t.subject.toJson),
    ("predicate_object_maps", .array (t.predicateObjects.map PredicateObjectMap.toJson))]

theorem TriplesMap.ofJson?_toJson {outside : Nat} (h : outside + 5 < depthLimit) (t : TriplesMap) :
    ofJson? outside t.toJson = some t := by
  have hfields : fields? ["id", "logical_table", "subject_map", "predicate_object_maps"] t.toJson
      = some t.fields := fields?_record (by simp) (by simp)
  have hid : t.fields.required "id" string? = some t.id := rfl
  have hlimit : outside + 1 < depthLimit := by omega
  have htable : t.fields.required "logical_table" (LogicalTable.ofJson? (outside + 1))
      = some t.table := LogicalTable.ofJson?_toJson hlimit t.table
  have hsubject : t.fields.required "subject_map" TermMap.ofJson? = some t.subject :=
    TermMap.ofJson?_toJson t.subject
  have hpredicateObject : ∀ m : PredicateObjectMap,
      PredicateObjectMap.ofJson? (outside + 2) m.toJson = some m :=
    PredicateObjectMap.ofJson?_toJson h
  have hpredicateObjects : t.fields.withDefault "predicate_object_maps" []
      (listOf (PredicateObjectMap.ofJson? (outside + 2))) = some t.predicateObjects :=
    listOf_array hpredicateObject t.predicateObjects
  unfold ofJson?
  rw [hfields, Option.bind_eq_bind, Option.bind_some, hid, htable, hsubject, hpredicateObjects]
  rfl

@[simp]
theorem TriplesMap.isTextual_toJson (t : TriplesMap) : IsTextual t.toJson :=
  .record (by
    simp [isTextual_array PredicateObjectMap.isTextual_toJson])

theorem Document.ofJson?_toJson (d : Document) : ofJson? d.toJson = some d := by
  have hfields : fields? ["triples_maps"] d.toJson
      = some [("triples_maps", .array (d.rules.map TriplesMap.toJson))] :=
    fields?_record (by simp) (by simp)
  -- a rule stands inside the document and its list, and a parent's table five levels deeper
  have hlimit : 2 + 5 < depthLimit := by decide
  have hrules : Fields.withDefault [("triples_maps", .array (d.rules.map TriplesMap.toJson))]
      "triples_maps" [] (listOf (TriplesMap.ofJson? 2)) = some d.rules :=
    listOf_array (TriplesMap.ofJson?_toJson hlimit) d.rules
  unfold ofJson?
  rw [hfields, Option.bind_eq_bind, Option.bind_some, hrules]
  rfl

/-- The text of a document is read back as the document. -/
theorem Document.ofText?_toText (d : Document) : ofText? d.toText = some d := by
  have htextual : IsTextual d.toJson :=
    .record (by simp [isTextual_array TriplesMap.isTextual_toJson])
  unfold ofText? toText
  rw [htextual.ofText?_toText, Option.bind_some, ofJson?_toJson]

end TriplesSql
