import TriplesSql.Proofs.Mapping.Validity

/-!
# References and their parents

Where names are distinct, linking gives each reference to a rule of the document the table and the
subject of this rule, and leaves all else as it was. Whether the parents of all references are in
the document is the same before and after; the first reference that has none is the one reported.
-/

namespace TriplesSql

section Linked

variable (parent? : String → Option (LogicalTable × TermMap))

/-- A reference before and after linking: what is known of its parent stands in it afterwards. -/
structure RefObjectMap.Linked (r r' : RefObjectMap) : Prop where
  parent : r'.parent = r.parent
  conditions : r'.conditions = r.conditions
  known : ∀ table subject, parent? r.parent = some (table, subject) →
    r'.parentTable = some table ∧ r'.parentSubject = some subject
  unknown : parent? r.parent = none →
    r'.parentTable = r.parentTable ∧ r'.parentSubject = r.parentSubject

structure PredicateObjectMap.Linked (m m' : PredicateObjectMap) : Prop where
  predicates : m'.predicates = m.predicates
  objects : m'.objects = m.objects
  references : m.references.Forall₂ (RefObjectMap.Linked parent?) m'.references

structure TriplesMap.Linked (t t' : TriplesMap) : Prop where
  id : t'.id = t.id
  table : t'.table = t.table
  subject : t'.subject = t.subject
  predicateObjects :
    t.predicateObjects.Forall₂ (PredicateObjectMap.Linked parent?) t'.predicateObjects

/-- A document before and after linking, reference by reference. -/
def Document.Linked (d d' : Document) : Prop :=
  d.rules.Forall₂ (TriplesMap.Linked parent?) d'.rules

end Linked

attribute [ext] RefObjectMap

theorem RefObjectMap.Linked.unique {parent? : String → Option (LogicalTable × TermMap)}
    {r r' r'' : RefObjectMap} (h : r.Linked parent? r') (h' : r.Linked parent? r'') :
    r' = r'' := by
  have hname := h.parent.trans h'.parent.symm
  have hconditions := h.conditions.trans h'.conditions.symm
  cases hp : parent? r.parent with
  | none =>
    obtain ⟨htable, hsubject⟩ := h.unknown hp
    obtain ⟨htable', hsubject'⟩ := h'.unknown hp
    exact RefObjectMap.ext hname hconditions (htable.trans htable'.symm)
      (hsubject.trans hsubject'.symm)
  | some x =>
    obtain ⟨htable, hsubject⟩ := h.known x.1 x.2 hp
    obtain ⟨htable', hsubject'⟩ := h'.known x.1 x.2 hp
    exact RefObjectMap.ext hname hconditions (htable.trans htable'.symm)
      (hsubject.trans hsubject'.symm)

namespace Document

variable {d d' : Document} {id : String}

def parent? (d : Document) (id : String) : Option (LogicalTable × TermMap) :=
  (d.get? id).map fun t => (t.table, t.subject)

theorem last?_eq_get? (hids : (d.rules.map (·.id)).Nodup) (id : String) :
    d.last? id = d.get? id := by
  have hreverse : (d.rules.reverse.map (·.id)).Nodup := by
    rw [List.map_reverse, List.nodup_reverse]
    exact hids
  apply Option.ext
  intro t
  unfold last? get?
  rw [find?_key_eq_some_iff hreverse, find?_key_eq_some_iff hids, List.mem_reverse]

section distinct

variable (hids : (d.rules.map (·.id)).Nodup)
include hids

theorem linked_linkReference (r : RefObjectMap) : r.Linked d.parent? (d.linkReference r) := by
  have hparent : d.parent? r.parent = (d.last? r.parent).map fun t => (t.table, t.subject) := by
    rw [last?_eq_get? hids]
    rfl
  unfold linkReference
  cases hlast : d.last? r.parent with
  | none =>
    rw [hlast, Option.map_none] at hparent
    refine ⟨rfl, rfl, fun table subject hknown => ?_, fun _ => ⟨rfl, rfl⟩⟩
    rw [hparent] at hknown
    cases hknown
  | some p =>
    rw [hlast, Option.map_some] at hparent
    refine ⟨rfl, rfl, fun table subject hknown => ?_, fun hunknown => ?_⟩
    · rw [hparent] at hknown
      obtain ⟨rfl, rfl⟩ := Prod.mk.inj (Option.some.inj hknown)
      exact ⟨rfl, rfl⟩
    · rw [hparent] at hunknown
      cases hunknown

theorem linked_reference_iff (r r' : RefObjectMap) :
    r.Linked d.parent? r' ↔ r' = d.linkReference r := by
  constructor
  · intro h
    exact h.unique (linked_linkReference hids r)
  · rintro rfl
    exact linked_linkReference hids r

theorem linked_predicateObject_iff (m m' : PredicateObjectMap) :
    m.Linked d.parent? m' ↔ m' = m.mapReferences d.linkReference := by
  obtain ⟨predicates, objects, references⟩ := m'
  have hreferences : m.references.Forall₂ (RefObjectMap.Linked d.parent?) references
      ↔ references = m.references.map d.linkReference :=
    forall₂_iff_eq_map (linked_reference_iff hids)
  constructor
  · rintro ⟨rfl, rfl, h⟩
    rw [hreferences.mp h]
    rfl
  · intro h
    obtain ⟨rfl, rfl, hlist⟩ := PredicateObjectMap.mk.inj h
    exact ⟨rfl, rfl, hreferences.mpr hlist⟩

theorem linked_rule_iff (t t' : TriplesMap) :
    t.Linked d.parent? t' ↔ t' = t.mapReferences d.linkReference := by
  obtain ⟨name, table, subject, predicateObjects⟩ := t'
  have hmaps : t.predicateObjects.Forall₂ (PredicateObjectMap.Linked d.parent?) predicateObjects
      ↔ predicateObjects = t.predicateObjects.map (·.mapReferences d.linkReference) :=
    forall₂_iff_eq_map (linked_predicateObject_iff hids)
  constructor
  · rintro ⟨rfl, rfl, rfl, h⟩
    rw [hmaps.mp h]
    rfl
  · intro h
    obtain ⟨rfl, rfl, rfl, hlist⟩ := TriplesMap.mk.inj h
    exact ⟨rfl, rfl, rfl, hmaps.mpr hlist⟩

theorem linked_iff (d' : Document) : d.Linked d.parent? d' ↔ d' = d.link := by
  obtain ⟨rules⟩ := d'
  unfold Linked link
  rw [forall₂_iff_eq_map (linked_rule_iff hids), Document.mk.injEq]

end distinct

theorem parent?_link (d : Document) : d.link.parent? = d.parent? := by
  funext id
  unfold parent? get? link
  rw [List.find?_map, Option.map_map]
  rfl

def links (d : Document) : List (String × String) :=
  d.rules.flatMap fun t => t.references.map fun r => (t.id, r.parent)

@[simp]
theorem parent_linkReference (d : Document) (r : RefObjectMap) :
    (d.linkReference r).parent = r.parent := by
  unfold linkReference
  cases d.last? r.parent with
  | none => rfl
  | some p => rfl

@[simp]
theorem links_link (d : Document) : d.link.links = d.links := by
  simp [links, link, List.flatMap_map, Function.comp_def]

theorem get?_isNone_iff : (d.get? id).isNone = true ↔ id ∉ d.rules.map (·.id) := by
  rw [← Option.not_isSome, Bool.not_eq_true', ← Bool.not_eq_true, exists_get?_iff, List.mem_map]

theorem checkReferences_eq (d : Document) :
    d.checkReferences = match d.links.find? fun x => x.2 ∉ d.rules.map (·.id) with
      | none => .ok ()
      | some (rule, parent) => .error (.unknownParent rule parent) := by
  have hcheck : d.checkReferences = d.links.forM fun x =>
      if (d.get? x.2).isNone then .error (.unknownParent x.1 x.2) else .ok () := by
    unfold links checkReferences
    rw [forM_flatMap]
    refine congrArg d.rules.forM (funext fun t => ?_)
    simp only [List.forM_eq_forM, List.forM_map]
  have hmissing : (fun x : String × String => (d.get? x.2).isNone)
      = fun x => decide (x.2 ∉ d.rules.map (·.id)) := by
    funext x
    rw [Bool.eq_iff_iff, get?_isNone_iff, decide_eq_true_iff]
  rw [hcheck, forM_eq_find? (fun x : String × String => (d.get? x.2).isNone), hmissing]
  cases d.links.find? fun x => x.2 ∉ d.rules.map (·.id) with
  | none => rfl
  | some x => rfl

/-- Linking changes the references to rules of the document and nothing else, and it takes nothing
from what it changes. So it is done once and for all, and it makes no difference to the check of
references, which succeeds if all parents are names of rules and otherwise reports the first
reference, in the order of the document, whose parent is none. -/
theorem link_exact (d : Document) (hids : (d.rules.map (·.id)).Nodup) :
    (∀ d', d.Linked d.parent? d' ↔ d' = d.link) ∧ d.link.parent? = d.parent?
    ∧ d.link.link = d.link
    ∧ d.link.checkReferences = d.checkReferences
    ∧ (d.checkReferences = .ok ()
      ↔ ∀ t ∈ d.rules, ∀ r ∈ t.references, ∃ p ∈ d.rules, p.id = r.parent)
    ∧ d.checkReferences = match d.links.find? fun x => x.2 ∉ d.rules.map (·.id) with
      | none => .ok ()
      | some (rule, parent) => .error (.unknownParent rule parent) := by
  have hcheck : d.link.checkReferences = d.checkReferences := by
    simp only [checkReferences_eq, links_link, ids_link]
  exact ⟨linked_iff hids, d.parent?_link, d.link_link, hcheck, checkReferences_eq_ok_iff,
    d.checkReferences_eq⟩

/-- Rules that refer to each other and to themselves. One reference has a parent that is missing
and says itself what the parent is; another one says it of a parent that is there. -/
def branches : Document where
  rules := [⟨"Emp", .tableName "emp", .template "emp/\x7bid\x7d",
      [⟨[.constant "p"], [.column "name"], [⟨"Dept", [⟨"dept", "id"⟩], none, none⟩,
        ⟨"Emp", [⟨"boss", "id"⟩], some (.tableName "old"), none⟩,
        ⟨"City", [], some (.tableName "city"), some (.column "code")⟩]⟩]⟩,
    ⟨"Dept", .queryString "SELECT 1", .column "id",
      [⟨[], [], [⟨"Land", [], none, none⟩, ⟨"Emp", [], none, some (.constant "none")⟩]⟩]⟩]

theorem link_exact_branches :
    (branches.rules.map (·.id)).Nodup
    ∧ branches.link = ⟨[⟨"Emp", .tableName "emp", .template "emp/\x7bid\x7d",
        [⟨[.constant "p"], [.column "name"],
          [⟨"Dept", [⟨"dept", "id"⟩], some (.queryString "SELECT 1"), some (.column "id")⟩,
            ⟨"Emp", [⟨"boss", "id"⟩], some (.tableName "emp"),
              some (.template "emp/\x7bid\x7d")⟩,
            ⟨"City", [], some (.tableName "city"), some (.column "code")⟩]⟩]⟩,
      ⟨"Dept", .queryString "SELECT 1", .column "id",
        [⟨[], [], [⟨"Land", [], none, none⟩,
          ⟨"Emp", [], some (.tableName "emp"), some (.template "emp/\x7bid\x7d")⟩]⟩]⟩]⟩
    ∧ branches.Linked branches.parent? branches.link
    ∧ branches.link.link = branches.link
    ∧ branches.link.checkReferences = .error (.unknownParent "Emp" "City") := by
  have hids : (branches.rules.map (·.id)).Nodup := by decide
  obtain ⟨hlinked, -, hlink, hcheck, -, hfirst⟩ := link_exact branches hids
  have hfind : branches.links.find? (fun x => x.2 ∉ branches.rules.map (·.id))
      = some ("Emp", "City") := by decide +kernel
  rw [hfind] at hfirst
  exact ⟨hids, by decide +kernel, (hlinked branches.link).mpr rfl, hlink, hcheck.trans hfirst⟩

end Document

end TriplesSql
