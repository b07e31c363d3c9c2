import TriplesSql.Command.Run
import TriplesSql.Proofs.Mapping.Validity
import TriplesSql.Proofs.Unfold.Order

/-!
# Documents that unfold as a whole

A loaded document whose references pass their check and whose own tables all have rows to read gives
a query for each of its rules, since linking has put the table of a rule into every reference.
Whether query texts can be read makes no difference.
-/

namespace TriplesSql

theorem Document.IsLinked.isUnfoldable {d : Document} (h : d.IsLinked)
    (hreferences : d.checkReferences = .ok ()) (htables : ∀ t ∈ d.rules, t.table ≠ .unsupported)
    {t : TriplesMap} (ht : t ∈ d.rules) : t.IsUnfoldable := by
  constructor
  · exact htables t ht
  · intro m hm r hr
    have href : r ∈ t.references :=
      List.mem_flatMap.mpr ⟨m, hm, List.mem_of_mem_head? hr⟩
    have hparent := Document.checkReferences_eq_ok_iff.mp hreferences t ht r href
    obtain ⟨p, hp, -, htable⟩ := h.exists_parentTable_eq ht href hparent
    exact ⟨p.table, htable, htables p hp⟩

namespace Unfolder

section reader

variable [SqlReader]

theorem perm_keys_foldl_addQuery {s : Settings} {ts : List TriplesMap}
    (hids : (ts.map (·.id)).Nodup) (hall : ∀ t ∈ ts, t.IsUnfoldable) :
    (ts.foldl (addQuery s) ∅).keys.Perm (ts.map (·.id)) := by
  refine (List.perm_ext_iff_of_nodup Std.ExtTreeMap.nodup_keys hids).mpr fun id => ?_
  rw [Std.ExtTreeMap.mem_keys, mem_foldl_addQuery_iff, List.mem_map]
  constructor
  · rintro ⟨t, ht, hid, -⟩
    exact ⟨t, ht, hid⟩
  · rintro ⟨t, ht, hid⟩
    exact ⟨t, ht, hid, hall t ht⟩

theorem getElem?_foldl_addQuery_of_mem {s : Settings} {ts : List TriplesMap}
    (hids : (ts.map (·.id)).Nodup) {t : TriplesMap} (ht : t ∈ ts) {r : Unfolded}
    (hr : t.unfolded? s none = some r) : (ts.foldl (addQuery s) ∅)[t.id]? = some r.query := by
  have hunfoldable : t.IsUnfoldable := TriplesMap.exists_unfolded?_iff.mp ⟨r, hr⟩
  obtain ⟨last, hmem, hp, hlast⟩ := exists_getLast?_filter ht
    (p := fun x => x.id = t.id ∧ x.IsUnfoldable) (decide_eq_true ⟨rfl, hunfoldable⟩)
  have hsame : last = t := eq_of_mem_of_id_eq hids hmem ht (of_decide_eq_true hp).1
  subst hsame
  rw [getElem?_foldl_addQuery, hlast, Option.bind_some, hr, Option.map_some]

theorem quiet_flatMap_ruleEvents {s : Settings} {ts : List TriplesMap}
    (hall : ∀ t ∈ ts, t.IsUnfoldable) : Quiet (ts.flatMap (·.ruleEvents s)) := by
  intro e he
  obtain ⟨t, ht, he⟩ := List.mem_flatMap.mp he
  have hobstacle : t.obstacle? = none := TriplesMap.obstacle?_eq_none_iff.mpr (hall t ht)
  rw [TriplesMap.ruleEvents, hobstacle, Option.map_none, Option.toList_none,
    List.append_nil] at he
  exact t.quiet_unfold s none e he

/-- A document that was loaded, whose references pass their check and whose tables can all be read
gives one query for each rule, the one that the rule has alone, and no error is told. -/
theorem unfoldDocument_complete {text : String} {d : Document} (hload : Document.load text = .ok d)
    (hreferences : d.checkReferences = .ok ()) (htables : ∀ t ∈ d.rules, t.table ≠ .unsupported)
    (u : Unfolder) :
    (u.unfoldDocument d).value.1.size = d.rules.length
    ∧ (u.unfoldDocument d).value.1.keys.Perm (d.rules.map (·.id))
    ∧ (∀ t ∈ d.rules, ∃ r, (t.unfold u.settings none).value = .ok (some r)
      ∧ (u.unfoldDocument d).value.1[t.id]? = some r.query)
    ∧ Quiet (u.unfoldDocument d).events := by
  obtain ⟨stored, -, hvalid, rfl⟩ := Document.load_eq_ok_iff.mp hload
  have hids : (stored.link.rules.map (·.id)).Nodup := by
    rw [Document.ids_link]
    exact (Document.validate_eq_ok_iff.mp hvalid).1
  have hall : ∀ t ∈ stored.link.rules, t.IsUnfoldable := fun t ht =>
    (Document.isLinked_link stored).isUnfoldable hreferences htables ht
  rw [unfoldDocument_eq]
  have hkeys := perm_keys_foldl_addQuery (s := u.settings) hids hall
  refine ⟨?_, hkeys, ?_, quiet_flatMap_ruleEvents hall⟩
  · rw [← Std.ExtTreeMap.length_keys, hkeys.length_eq, List.length_map]
  · intro t ht
    obtain ⟨r, hr⟩ := (TriplesMap.exists_unfolded?_iff (s := u.settings)).mpr (hall t ht)
    exact ⟨r, TriplesMap.unfolded?_eq_some_iff.mp hr,
      getElem?_foldl_addQuery_of_mem hids ht hr⟩

end reader

def routes : Document where
  rules := [⟨"Trip", .tableName "trip", .template "trip/\x7bid\x7d",
      [⟨[], [], [⟨"Route", [⟨"route", "code"⟩], some .unsupported, none⟩]⟩,
        ⟨[], [], [⟨"Trip", [], none, none⟩]⟩]⟩,
    ⟨"Route", .queryString "SELECT )", .column "code",
      [⟨[], [], [⟨"Route", [], some .unsupported, some (.constant "none")⟩]⟩]⟩]

theorem unfoldDocument_complete_routes : Document.load routes.toText = .ok routes.link
    ∧ routes.link.checkReferences = .ok () ∧ (∀ t ∈ routes.link.rules, t.table ≠ .unsupported)
    ∧ (startedUnfolder.unfoldDocument routes.link).value.1.size = 2
    ∧ (startedUnfolder.unfoldDocument routes.link).value.1.keys.Perm ["Trip", "Route"]
    ∧ (startedUnfolder.unfoldDocument routes.link).events.filter (·.level = .warn)
      = List.replicate 3 (.queryUnread .postgres .malformed)
    ∧ Quiet (startedUnfolder.unfoldDocument routes.link).events := by
  have hload : Document.load routes.toText = .ok routes.link :=
    Document.load_eq_ok_iff.mpr ⟨routes, Document.ofText?_toText routes, by decide +kernel, rfl⟩
  have hreferences : routes.link.checkReferences = .ok () := by decide +kernel
  have htables : ∀ t ∈ routes.link.rules, t.table ≠ .unsupported := by decide +kernel
  obtain ⟨hsize, hkeys, -, hquiet⟩ :=
    unfoldDocument_complete hload hreferences htables startedUnfolder
  exact ⟨hload, hreferences, htables, hsize, hkeys, by decide +kernel, hquiet⟩

end Unfolder

end TriplesSql
