import TriplesSql.Proofs.Mapping.Storage

/-!
# Linked documents

Linking changes the parents' tables and subjects in references and nothing else. So it changes
nothing that the checks look at or that it takes from a parent itself, and linking twice is linking
once.
-/

namespace TriplesSql

namespace TriplesMap

theorem mapReferences_mapReferences (f g : RefObjectMap → RefObjectMap) (t : TriplesMap) :
    (t.mapReferences f).mapReferences g = t.mapReferences (g ∘ f) := by
  simp only [mapReferences, PredicateObjectMap.mapReferences, List.map_map, Function.comp_def]

end TriplesMap

namespace Document

variable (d : Document)

theorem checkRules_map_mapReferences (f : RefObjectMap → RefObjectMap) (seen : List String)
    (ts : List TriplesMap) : checkRules seen (ts.map (·.mapReferences f)) = checkRules seen ts := by
  induction ts generalizing seen with
  | nil => rfl
  | cons t ts ih =>
    rw [List.map_cons]
    simp only [checkRules, TriplesMap.id_mapReferences, TriplesMap.termMaps_mapReferences, ih]

theorem validate_link : d.link.validate = d.validate :=
  checkRules_map_mapReferences d.linkReference [] d.rules

theorem last?_link (id : String) :
    d.link.last? id = (d.last? id).map (·.mapReferences d.linkReference) := by
  unfold last? link
  rw [← List.map_reverse, List.find?_map]
  rfl

@[simp]
theorem linkReference_link (r : RefObjectMap) : d.link.linkReference r = d.linkReference r := by
  unfold linkReference
  rw [last?_link]
  cases d.last? r.parent with
  | none => rfl
  | some parent => rfl

@[simp]
theorem linkReference_linkReference (r : RefObjectMap) :
    d.linkReference (d.linkReference r) = d.linkReference r := by
  unfold linkReference
  cases hparent : d.last? r.parent with
  | none => simp only [hparent]
  | some parent => simp only [hparent]

theorem link_link : d.link.link = d.link := by
  have hreference : d.link.linkReference ∘ d.linkReference = d.linkReference := by
    funext r
    rw [Function.comp_apply, linkReference_link, linkReference_linkReference]
  have hrule : ∀ t : TriplesMap, (t.mapReferences d.linkReference).mapReferences
      d.link.linkReference = t.mapReferences d.linkReference := by
    intro t
    rw [TriplesMap.mapReferences_mapReferences, hreference]
  calc d.link.link
      = ⟨(d.rules.map (·.mapReferences d.linkReference)).map
          (·.mapReferences d.link.linkReference)⟩ := rfl
    _ = ⟨d.rules.map (·.mapReferences d.linkReference)⟩ := by
        rw [List.map_map]
        exact congrArg mk (List.map_congr_left fun t _ => hrule t)
    _ = d.link := rfl

theorem load_eq_ok_iff {s : String} {d : Document} :
    load s = .ok d ↔ ∃ stored, ofText? s = some stored ∧ stored.validate = .ok ()
      ∧ stored.link = d := by
  unfold load
  cases ofText? s with
  | none => simp
  | some stored =>
    cases hv : stored.validate with
    | error e => simp [hv]
    | ok _ => simp [hv]

/-- Loading the text of a document gives the document linked, or what is wrong with it. So a
document that was loaded is loaded again from its text as it is. -/
theorem load_toText :
    (∀ d : Document, load d.toText = match d.validate with
      | .error e => .error (.defect e)
      | .ok () => .ok d.link)
    ∧ ∀ (s : String) (d : Document), load s = .ok d → load d.toText = .ok d := by
  have hload : ∀ d : Document, load d.toText = match d.validate with
      | .error e => .error (.defect e)
      | .ok () => .ok d.link := by
    intro d
    cases hv : d.validate with
    | error e => simp only [load, ofText?_toText, hv]
    | ok _ => exact load_eq_ok_iff.mpr ⟨d, ofText?_toText d, hv, rfl⟩
  refine ⟨hload, fun s d h => ?_⟩
  obtain ⟨stored, -, hvalid, rfl⟩ := load_eq_ok_iff.mp h
  rw [hload, validate_link, hvalid, link_link]

def selfReferringText : String :=
  "\x7b\"triples_maps\": [[\"Emp\", [\"table_name\", \"emp\"], \x7b\"column\": \"id\"\x7d,
    [\x7b\"ref_object_maps\": [[\"Emp\", [], [\"stream\"]]]\x7d]]]\x7d"

def selfReferring : Document where
  rules := [⟨"Emp", .tableName "emp", .column "id",
    [⟨[], [], [⟨"Emp", [], some (.tableName "emp"), some (.column "id")⟩]⟩]⟩]

theorem load_selfReferringText : load selfReferringText = .ok selfReferring
    ∧ load selfReferring.toText = .ok selfReferring := by
  have h : load selfReferringText = .ok selfReferring := by decide +kernel
  exact ⟨h, load_toText.2 selfReferringText selfReferring h⟩

end Document

end TriplesSql
