import TriplesSql.Command.Run
import TriplesSql.Proofs.Lists
import TriplesSql.Proofs.Unfold.Labels
import TriplesSql.Proofs.Unfold.Merging
import TriplesSql.Proofs.Unfold.Obstacles
import TriplesSql.Proofs.Unfold.Sources
import TriplesSql.Unfold.Unfolder

/-!
# Unfolded documents

The rules of a document are unfolded one after the other, and none has an effect on what another one
gives. So the queries are those of the rules that can be unfolded, where of rules with one name the
last one counts, and every other rule is told of with its first obstacle.
-/

namespace TriplesSql

open Std

namespace TriplesMap

instance (t : TriplesMap) : Decidable t.IsUnfoldable :=
  decidable_of_iff (t.obstacle? = none) obstacle?_eq_none_iff

variable [SqlReader]

def unfolded? (t : TriplesMap) (s : Settings) (subject : Option String) : Option Unfolded :=
  match (t.unfold s subject).value with
  | .ok found => found
  | .error _ => none

theorem unfolded?_eq_some_iff {t : TriplesMap} {s : Settings} {subject : Option String}
    {r : Unfolded} :
    t.unfolded? s subject = some r ↔ (t.unfold s subject).value = .ok (some r) := by
  unfold unfolded?
  cases (t.unfold s subject).value with
  | error e => simp
  | ok found => simp

theorem exists_unfolded?_iff {t : TriplesMap} {s : Settings} :
    (∃ r, t.unfolded? s none = some r) ↔ t.IsUnfoldable := by
  rw [← obstacle?_eq_none_iff]
  simp only [unfolded?_eq_some_iff]
  rcases t.unfold_none_value s with ⟨r, hr, ho⟩ | ⟨e, he, ho⟩
  · exact ⟨fun _ => ho, fun _ => ⟨r, hr⟩⟩
  · simp [he, ho]

def ruleEvents (s : Settings) (t : TriplesMap) : List Event :=
  (t.unfold s none).events ++ (t.obstacle?.map (Event.ruleFailed t.id)).toList

theorem errors_ruleEvents (s : Settings) (t : TriplesMap) :
    (t.ruleEvents s).filter (·.level = .error)
      = (t.obstacle?.map (Event.ruleFailed t.id)).toList := by
  have hquiet : (t.unfold s none).events.filter (·.level = .error) = [] := by
    rw [List.filter_eq_nil_iff]
    intro e he
    simpa using t.quiet_unfold s none e he
  rw [ruleEvents, List.filter_append, hquiet, List.nil_append]
  cases t.obstacle? with
  | none => rfl
  | some e => rfl

end TriplesMap

namespace Unfolder

section reader

variable [SqlReader]

def addQuery (s : Settings) (queries : Queries) (t : TriplesMap) : Queries :=
  match t.unfolded? s none with
  | none => queries
  | some r => queries.insert t.id r.query

def namesOf (s : Settings) (ts : List TriplesMap) : List Registry :=
  ts.filterMap fun t => (t.unfolded? s none).map (·.registry)

theorem addRule_eq (done : Logged (Queries × Unfolder)) (t : TriplesMap) :
    addRule done t = ⟨(addQuery done.value.2.settings done.value.1 t,
      ⟨done.value.2.settings,
        (namesOf done.value.2.settings [t]).foldl Registry.merge done.value.2.registry⟩),
      done.events ++ t.ruleEvents done.value.2.settings⟩ := by
  rcases t.unfold_none_value done.value.2.settings with ⟨r, hr, ho⟩ | ⟨e, he, ho⟩
  · have hu := TriplesMap.unfolded?_eq_some_iff.mpr hr
    simp [addRule, unfoldRule, addQuery, namesOf, absorb, TriplesMap.ruleEvents, hr, hu, ho]
  · have hu : t.unfolded? done.value.2.settings none = none := by
      simp [TriplesMap.unfolded?, he]
    simp [addRule, unfoldRule, addQuery, namesOf, TriplesMap.ruleEvents, he, hu, ho]

theorem foldl_addRule (ts : List TriplesMap) (done : Logged (Queries × Unfolder)) :
    ts.foldl addRule done = ⟨(ts.foldl (addQuery done.value.2.settings) done.value.1,
      ⟨done.value.2.settings,
        (namesOf done.value.2.settings ts).foldl Registry.merge done.value.2.registry⟩),
      done.events ++ ts.flatMap (·.ruleEvents done.value.2.settings)⟩ := by
  induction ts generalizing done with
  | nil => simp [namesOf]
  | cons t ts ih =>
    have hnames : namesOf done.value.2.settings (t :: ts)
        = namesOf done.value.2.settings [t] ++ namesOf done.value.2.settings ts :=
      List.filterMap_append (l := [t])
    rw [List.foldl_cons, ih, addRule_eq, hnames, List.foldl_append, List.foldl_cons,
      List.flatMap_cons, List.append_assoc]

/-- Settings stay, queries and names are taken in, and events are told in the order of the rules. -/
theorem unfoldDocument_eq (u : Unfolder) (d : Document) :
    u.unfoldDocument d = ⟨(d.rules.foldl (addQuery u.settings) ∅,
      ⟨u.settings, (namesOf u.settings d.rules).foldl Registry.merge u.registry⟩),
      d.rules.flatMap (·.ruleEvents u.settings)⟩ :=
  foldl_addRule d.rules ⟨(∅, u), []⟩

theorem getElem?_addQuery (s : Settings) (queries : Queries) (t : TriplesMap) (id : String) :
    (addQuery s queries t)[id]? = if t.id = id then
      ((t.unfolded? s none).map (·.query)).or queries[id]? else queries[id]? := by
  unfold addQuery
  cases t.unfolded? s none with
  | none => exact (ite_self _).symm
  | some r =>
    simp only [ExtTreeMap.getElem?_insert, Std.compare_eq_iff_eq]
    rfl

/-- Under a name stands the query of the last rule with the name that can be unfolded. -/
theorem getElem?_foldl_addQuery (s : Settings) (ts : List TriplesMap) (id : String) :
    (ts.foldl (addQuery s) ∅)[id]?
      = (ts.filter fun t => t.id = id ∧ t.IsUnfoldable).getLast?.bind fun t =>
        (t.unfolded? s none).map (·.query) := by
  induction ts using List.reverseRecOn with
  | nil => exact ExtTreeMap.getElem?_empty
  | append_singleton ts t ih =>
    rw [List.foldl_append, List.foldl_cons, List.foldl_nil, getElem?_addQuery, ih,
      List.filter_append]
    by_cases hid : t.id = id
    · by_cases ht : t.IsUnfoldable
      · obtain ⟨r, hr⟩ := (TriplesMap.exists_unfolded?_iff (s := s)).mpr ht
        simp [hid, ht, hr]
      · have hr : t.unfolded? s none = none := by
          rw [← Option.not_isSome_iff_eq_none, Option.isSome_iff_exists]
          exact fun h => ht (TriplesMap.exists_unfolded?_iff.mp h)
        simp [hid, ht, hr]
    · simp [hid]

theorem mem_foldl_addQuery_iff (s : Settings) (ts : List TriplesMap) (id : String) :
    id ∈ ts.foldl (addQuery s) ∅ ↔ ∃ t ∈ ts, t.id = id ∧ t.IsUnfoldable := by
  rw [mem_iff_exists_getElem?, getElem?_foldl_addQuery]
  constructor
  · rintro ⟨q, hq⟩
    obtain ⟨t, hlast, -⟩ := Option.bind_eq_some_iff.mp hq
    obtain ⟨ht, hp⟩ := List.mem_filter.mp (List.mem_of_getLast? hlast)
    exact ⟨t, ht, of_decide_eq_true hp⟩
  · rintro ⟨t, ht, hp⟩
    obtain ⟨last, -, hu, hlast⟩ := exists_getLast?_filter ht
      (p := fun t => t.id = id ∧ t.IsUnfoldable) (decide_eq_true hp)
    obtain ⟨r, hr⟩ := (TriplesMap.exists_unfolded?_iff (s := s)).mpr (of_decide_eq_true hu).2
    exact ⟨r.query, by rw [hlast, Option.bind_some, hr, Option.map_some]⟩

/-- A name has a query exactly if a rule with the name can be unfolded. The last such rule counts,
and its query is the one that it has alone. The errors are the first obstacles of all other rules,
in the order of the document. -/
theorem unfoldDocument_outcome (u : Unfolder) (d : Document) :
    (∀ id, id ∈ (u.unfoldDocument d).value.1 ↔ ∃ t ∈ d.rules, t.id = id ∧ t.IsUnfoldable)
    ∧ (∀ id q, (u.unfoldDocument d).value.1[id]? = some q
      ↔ ∃ t r, (d.rules.filter fun t => t.id = id ∧ t.IsUnfoldable).getLast? = some t
        ∧ (t.unfold u.settings none).value = .ok (some r) ∧ r.query = q)
    ∧ (u.unfoldDocument d).events.filter (·.level = .error)
      = (d.rules.filterMap fun t => t.obstacle?.map (Event.ruleFailed t.id))
    ∧ ∀ t : TriplesMap, t.obstacle? = none ↔ t.IsUnfoldable := by
  rw [unfoldDocument_eq]
  refine ⟨fun id => ?_, fun id q => ?_, ?_, fun t => TriplesMap.obstacle?_eq_none_iff⟩
  · exact mem_foldl_addQuery_iff u.settings d.rules id
  · rw [getElem?_foldl_addQuery, Option.bind_eq_some_iff]
    simp only [Option.map_eq_some_iff, TriplesMap.unfolded?_eq_some_iff, exists_and_left]
  · rw [List.filter_flatMap, List.filterMap_eq_flatMap_toList]
    simp only [TriplesMap.errors_ruleEvents]

end reader

def startedUnfolder : Unfolder := ⟨{}, Registry.empty.recordTerm (.subject "Emp") "E1"⟩

def timetable : Document := ⟨[joiningRule, strandedRule, crowdedRule]⟩

example : (startedUnfolder.unfoldDocument timetable).value.1.keys = ["Emp", "Flight"]
    ∧ (startedUnfolder.unfoldDocument timetable).events.filter (·.level = .error)
      = [.ruleFailed "Trip" (.missingParent "http://example.org/fleet")] := by decide +kernel

end Unfolder

end TriplesSql
