import TriplesSql.Proofs.Mapping.References

/-!
# Templates of loaded documents

The check of a document looks at the templates of its rules and at nothing that stands in a
reference. Linking puts subjects of rules, which were checked, into the references to them. What is
written as the subject of a parent that is not in the document stays as it is, and the check passes
it over.
-/

namespace TriplesSql

def TermMap.IsWellFormed (m : TermMap) : Prop :=
  ∀ text ∈ m.template?, ∃ segments, Template.parse text = .ok segments

namespace Document

variable {d : Document}

def termMaps (d : Document) : List TermMap :=
  d.rules.flatMap fun t => t.termMaps ++ t.references.filterMap (·.parentSubject)

/-- The references to parents that are not in the document. -/
def strays (d : Document) : List RefObjectMap :=
  (d.rules.flatMap (·.references)).filter fun r => r.parent ∉ d.rules.map (·.id)

theorem mem_strays_iff {r : RefObjectMap} : r ∈ d.strays
    ↔ (∃ t ∈ d.rules, r ∈ t.references) ∧ ¬∃ p ∈ d.rules, p.id = r.parent := by
  simp [strays]

theorem forall_mem_termMaps_iff {P : TermMap → Prop} : (∀ m ∈ d.termMaps, P m)
    ↔ (∀ t ∈ d.rules, ∀ m ∈ t.termMaps, P m)
      ∧ ∀ t ∈ d.rules, ∀ r ∈ t.references, ∀ m ∈ r.parentSubject, P m := by
  unfold termMaps
  rw [List.forall_mem_flatMap, ← forall₂_and]
  refine forall₂_congr fun t _ => ?_
  rw [List.forall_mem_append, List.forall_mem_filterMap]
  rfl

theorem checkTemplates_eq_ok_iff {ms : List TermMap} :
    checkTemplates ms = .ok () ↔ ∀ m ∈ ms, m.IsWellFormed := by
  unfold checkTemplates
  rw [forM_eq_ok_iff, List.forall_mem_filterMap]
  refine forall₂_congr fun m _ => forall₂_congr fun text _ => ?_
  cases Template.parse text with
  | ok segments => simp
  | error e => simp

instance (m : TermMap) : Decidable m.IsWellFormed :=
  decidable_of_iff (checkTemplates [m] = .ok ())
    (checkTemplates_eq_ok_iff.trans List.forall_mem_singleton)

theorem load_eq_ok_iff_isWellFormed {s : String} : load s = .ok d ↔ ∃ stored,
    ofText? s = some stored ∧ (stored.rules.map (·.id)).Nodup
      ∧ (∀ t ∈ stored.rules, ∀ m ∈ t.termMaps, m.IsWellFormed) ∧ stored.link = d := by
  simp only [load_eq_ok_iff, validate_eq_ok_iff, checkTemplates_eq_ok_iff, and_assoc]

theorem termMaps_of_mem_link {P : TermMap → Prop} (h : ∀ t ∈ d.rules, ∀ m ∈ t.termMaps, P m) :
    ∀ t ∈ d.link.rules, ∀ m ∈ t.termMaps, P m := by
  intro t ht
  obtain ⟨stored, hstored, rfl⟩ := List.mem_map.mp ht
  rw [TriplesMap.termMaps_mapReferences]
  exact h stored hstored

theorem IsLinked.eq_parent (h : d.IsLinked) (hids : (d.rules.map (·.id)).Nodup) {t : TriplesMap}
    (ht : t ∈ d.rules) {r : RefObjectMap} (hr : r ∈ t.references) {p : TriplesMap}
    (hp : p ∈ d.rules) (hid : p.id = r.parent) :
    r.parentTable = some p.table ∧ r.parentSubject = some p.subject := by
  have hknown : d.parent? r.parent = some (p.table, p.subject) := by
    have hget : d.get? r.parent = some p := (find?_key_eq_some_iff hids).mpr ⟨hp, hid⟩
    rw [parent?, hget, Option.map_some]
  have hlinked := (linked_linkReference hids r).known p.table p.subject hknown
  rw [h t ht r hr] at hlinked
  exact hlinked

theorem linkReference_of_not_mem {r : RefObjectMap} (h : r.parent ∉ d.rules.map (·.id)) :
    d.linkReference r = r := by
  have hnone : d.last? r.parent = none := by
    refine List.find?_eq_none.mpr fun t ht hid => h ?_
    exact List.mem_map.mpr ⟨t, List.mem_reverse.mp ht, of_decide_eq_true hid⟩
  rw [linkReference, hnone]

theorem strays_link (d : Document) : d.link.strays = d.strays := by
  have hreferences : d.link.rules.flatMap (·.references)
      = (d.rules.flatMap (·.references)).map d.linkReference := by
    simp [link, List.flatMap_map, List.map_flatMap]
  have hstray : ∀ r ∈ d.strays, d.linkReference r = r := fun r hr =>
    linkReference_of_not_mem (of_decide_eq_true (List.mem_filter.mp hr).2)
  calc d.link.strays
      = d.strays.map d.linkReference := by
        unfold strays
        rw [ids_link, hreferences, List.filter_map]
        simp only [Function.comp_def, parent_linkReference]
    _ = d.strays.map id := List.map_congr_left hstray
    _ = d.strays := List.map_id d.strays

/-- A text is accepted exactly if it is that of a document whose rules have distinct names and
templates that parse. The document that it gives has distinct names, and all its templates parse but
perhaps for those that are written as subjects of parents that it does not have: the references to
rules of the document have the tables and the subjects of these, and all others are as they were
written. -/
theorem templates_of_load (s : String) (d : Document) :
    (load s = .ok d ↔ ∃ stored, ofText? s = some stored ∧ (stored.rules.map (·.id)).Nodup
      ∧ (∀ t ∈ stored.rules, ∀ m ∈ t.termMaps, m.IsWellFormed) ∧ stored.link = d)
    ∧ (load s = .ok d → (d.rules.map (·.id)).Nodup
      ∧ (∀ t ∈ d.rules, ∀ m ∈ t.termMaps, m.IsWellFormed)
      ∧ (∀ t ∈ d.rules, ∀ r ∈ t.references, ∀ p ∈ d.rules, p.id = r.parent →
        r.parentTable = some p.table ∧ r.parentSubject = some p.subject)
      ∧ (∃ stored, ofText? s = some stored ∧ d.strays = stored.strays)
      ∧ ((∀ m ∈ d.termMaps, m.IsWellFormed)
        ↔ ∀ r ∈ d.strays, ∀ m ∈ r.parentSubject, m.IsWellFormed)) := by
  refine ⟨load_eq_ok_iff_isWellFormed, fun h => ?_⟩
  obtain ⟨stored, hstored, hdistinct, htemplates, rfl⟩ := load_eq_ok_iff_isWellFormed.mp h
  have hids : (stored.link.rules.map (·.id)).Nodup := by
    rw [ids_link]
    exact hdistinct
  have hown := termMaps_of_mem_link htemplates
  have hparents := fun t ht r hr p hp hid =>
    (isLinked_link stored).eq_parent hids (t := t) ht (r := r) hr (p := p) hp hid
  refine ⟨hids, hown, hparents, ⟨stored, hstored, strays_link stored⟩, ?_⟩
  rw [forall_mem_termMaps_iff]
  constructor
  · intro hall r hr
    obtain ⟨⟨t, ht, hr⟩, -⟩ := mem_strays_iff.mp hr
    exact hall.2 t ht r hr
  · intro hstrays
    refine ⟨hown, fun t ht r hr m hm => ?_⟩
    by_cases hparent : ∃ p ∈ stored.link.rules, p.id = r.parent
    · -- what linking has put there is the subject of a rule
      obtain ⟨p, hp, hid⟩ := hparent
      have hsubject := (hparents t ht r hr p hp hid).2
      rw [Option.mem_def, hsubject, Option.some.injEq] at hm
      exact hm ▸ hown p hp p.subject List.mem_cons_self
    · exact hstrays r (mem_strays_iff.mpr ⟨⟨t, ht, hr⟩, hparent⟩) m hm

def districts : Document where
  rules := [⟨"Emp", .tableName "emp", .template "emp/\x7bid\x7d",
      [⟨[.constant "p"], [.template "\x7bname\x7d"],
        [⟨"Dept", [⟨"dept", "no"⟩], none, some (.template "dept/\x7bno")⟩,
          ⟨"City", [], some (.tableName "city"), some (.template "city/\x7bcode\x7d")⟩]⟩]⟩,
    ⟨"Dept", .queryString "SELECT 1", .template "dept/\x7bno\x7d", []⟩]

/-- The malformed template is not in the document any more once this is linked. -/
theorem templates_of_load_districts : load districts.toText = .ok districts.link
    ∧ ¬(∀ m ∈ districts.termMaps, m.IsWellFormed)
    ∧ districts.link.strays
      = [⟨"City", [], some (.tableName "city"), some (.template "city/\x7bcode\x7d")⟩]
    ∧ ∀ m ∈ districts.link.termMaps, m.IsWellFormed := by
  have hload : load districts.toText = .ok districts.link :=
    load_eq_ok_iff.mpr ⟨districts, Document.ofText?_toText districts, by decide +kernel, rfl⟩
  have hmalformed : ¬(∀ m ∈ districts.termMaps, m.IsWellFormed) := by decide +kernel
  have hstrays : districts.link.strays
      = [⟨"City", [], some (.tableName "city"), some (.template "city/\x7bcode\x7d")⟩] := by
    decide +kernel
  obtain ⟨-, -, -, -, hall⟩ := (templates_of_load districts.toText districts.link).2 hload
  rw [hstrays] at hall
  exact ⟨hload, hmalformed, hstrays, hall.mpr (by decide +kernel)⟩

def unclosed : Document where
  rules := [⟨"Emp", .tableName "emp", .template "emp/\x7bid\x7d",
    [⟨[], [], [⟨"City", [], some (.tableName "city"), some (.template "city/\x7bcode")⟩]⟩]⟩]

/-- Not all templates in a document that is accepted parse. -/
theorem not_forall_templates_of_load : ¬∀ (s : String) (d : Document), load s = .ok d →
    (d.rules.map (·.id)).Nodup ∧ ∀ m ∈ d.termMaps, m.IsWellFormed := by
  intro h
  have hload : load unclosed.toText = .ok unclosed.link :=
    load_eq_ok_iff.mpr ⟨unclosed, Document.ofText?_toText unclosed, by decide +kernel, rfl⟩
  have hmalformed : ¬∀ m ∈ unclosed.link.termMaps, m.IsWellFormed := by decide +kernel
  exact hmalformed (h unclosed.toText unclosed.link hload).2

end Document

end TriplesSql
