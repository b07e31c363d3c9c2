import TriplesSql.Proofs.Lists
import TriplesSql.Proofs.Mapping.Linking

/-!
# Documents that pass the checks

A check goes through a list and stops at the first defect, so it succeeds exactly if no entry has
one. In a linked document that passes the check of its references, each reference has the table of a
rule of the document, whatever was written with the reference.
-/

namespace TriplesSql.Document

variable {d : Document}

theorem checkRules_cons_eq_ok_iff {seen : List String} {t : TriplesMap} {ts : List TriplesMap} :
    checkRules seen (t :: ts) = .ok () ↔ t.id ∉ seen ∧ checkTemplates t.termMaps = .ok ()
      ∧ checkRules (t.id :: seen) ts = .ok () := by
  by_cases hseen : t.id ∈ seen
  · have hstop : checkRules seen (t :: ts) = .error (.duplicateRule t.id) := by
      simp only [checkRules, hseen, if_true]
      rfl
    rw [hstop]
    constructor
    · intro h
      cases h
    · intro h
      exact absurd hseen h.1
  · have hnext : checkRules seen (t :: ts)
        = (checkTemplates t.termMaps >>= fun _ => checkRules (t.id :: seen) ts) := by
      simp only [checkRules, hseen, if_false]
    rw [hnext, bind_eq_ok_iff]
    constructor
    · rintro ⟨_, ht, hrest⟩
      exact ⟨hseen, ht, hrest⟩
    · rintro ⟨-, ht, hrest⟩
      exact ⟨(), ht, hrest⟩

theorem checkRules_eq_ok_iff {seen : List String} {ts : List TriplesMap} :
    checkRules seen ts = .ok () ↔ (∀ t ∈ ts, t.id ∉ seen) ∧ (ts.map (·.id)).Nodup
      ∧ ∀ t ∈ ts, checkTemplates t.termMaps = .ok () := by
  induction ts generalizing seen with
  | nil => simp [checkRules]
  | cons t ts ih =>
    have hids : (∀ x ∈ ts, x.id ∉ t.id :: seen)
        ↔ (∀ x ∈ ts, x.id ∉ seen) ∧ t.id ∉ ts.map (·.id) := by
      simp only [List.mem_cons, not_or, forall_and, List.mem_map, not_exists, not_and]
      exact and_comm
    rw [checkRules_cons_eq_ok_iff, ih, hids, List.forall_mem_cons, List.forall_mem_cons,
      List.map_cons, List.nodup_cons]
    constructor
    · rintro ⟨hseen, ht, ⟨hfree, hnew⟩, hdistinct, hall⟩
      exact ⟨⟨hseen, hfree⟩, ⟨hnew, hdistinct⟩, ht, hall⟩
    · rintro ⟨⟨hseen, hfree⟩, ⟨hnew, hdistinct⟩, ht, hall⟩
      exact ⟨hseen, ht, ⟨hfree, hnew⟩, hdistinct, hall⟩

theorem validate_eq_ok_iff : d.validate = .ok () ↔ (d.rules.map (·.id)).Nodup
    ∧ ∀ t ∈ d.rules, checkTemplates t.termMaps = .ok () := by
  rw [validate, checkRules_eq_ok_iff]
  exact and_iff_right fun _ _ => List.not_mem_nil

theorem exists_get?_iff {id : String} : (d.get? id).isSome ↔ ∃ t ∈ d.rules, t.id = id := by
  simp [get?]

theorem checkReferences_eq_ok_iff : d.checkReferences = .ok ()
    ↔ ∀ t ∈ d.rules, ∀ r ∈ t.references, ∃ parent ∈ d.rules, parent.id = r.parent := by
  unfold checkReferences
  rw [forM_eq_ok_iff]
  refine forall₂_congr fun t _ => ?_
  rw [forM_eq_ok_iff]
  refine forall₂_congr fun r _ => ?_
  rw [← exists_get?_iff]
  cases d.get? r.parent with
  | none => simp
  | some parent => simp

/-- Linking would change none of the references. -/
def IsLinked (d : Document) : Prop := ∀ t ∈ d.rules, ∀ r ∈ t.references, d.linkReference r = r

theorem isLinked_link (d : Document) : d.link.IsLinked := by
  intro t ht r hr
  obtain ⟨stored, -, rfl⟩ := List.mem_map.mp ht
  rw [TriplesMap.references_mapReferences] at hr
  obtain ⟨r', -, rfl⟩ := List.mem_map.mp hr
  rw [linkReference_link, linkReference_linkReference]

@[simp]
theorem ids_link (d : Document) : d.link.rules.map (·.id) = d.rules.map (·.id) := by
  simp [link, Function.comp_def]

theorem IsLinked.exists_parentTable_eq (h : d.IsLinked) {t : TriplesMap} (ht : t ∈ d.rules)
    {r : RefObjectMap} (hr : r ∈ t.references) (hparent : ∃ p ∈ d.rules, p.id = r.parent) :
    ∃ p ∈ d.rules, p.id = r.parent ∧ r.parentTable = some p.table := by
  have hlinked := h t ht r hr
  unfold linkReference at hlinked
  cases hlast : d.last? r.parent with
  | none =>
    obtain ⟨p, hp, hid⟩ := hparent
    have hall := List.find?_eq_none.mp hlast p (List.mem_reverse.mpr hp)
    exact absurd hid (by simpa using hall)
  | some p =>
    simp only [hlast] at hlinked
    have hmem := List.mem_reverse.mp (List.mem_of_find?_eq_some hlast)
    have hid := List.find?_some hlast
    exact ⟨p, hmem, by simpa using hid, (congrArg RefObjectMap.parentTable hlinked).symm⟩

end TriplesSql.Document
