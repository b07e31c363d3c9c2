import TriplesSql.Command.Run
import TriplesSql.Proofs.Unfold.Documents

/-!
# Calls of an unfolder

Whatever is asked of an unfolder, its registry is the one that it began with, merged with the names
of the queries that it gave, in their order. A call that gives no query leaves nothing behind, and
what is once on record stays there.
-/

namespace TriplesSql

def TriplesMap.unfoldedSubject? [SqlReader] (t : TriplesMap) (s : Settings) : Option Unfolded :=
  (t.unfoldSubject s).value.toOption

namespace Unfolder

section reader

variable [SqlReader]

/-- A call that may leave names with an unfolder. -/
inductive Call where
  | rule (t : TriplesMap) (value : Option String)
  | subject (t : TriplesMap)
  | document (d : Document)
  | absorb (r : Registry)

namespace Call

/-- The names given in the queries of a call, for each query, or those that are handed over. -/
def names (s : Settings) : Call → List Registry
  | .rule t value => ((t.unfolded? s value).map (·.registry)).toList
  | .subject t => ((t.unfoldedSubject? s).map (·.registry)).toList
  | .document d => namesOf s d.rules
  | .absorb r => [r]

def parts : Call → List Call
  | .document d => d.rules.map fun t => .rule t none
  | c => [c]

end Call

def call (u : Unfolder) : Call → Unfolder
  | .rule t value => (u.unfoldRule t value).value.2
  | .subject t => (u.unfoldSubject t).value.2
  | .document d => (u.unfoldDocument d).value.2
  | .absorb r => u.absorb r

def run (u : Unfolder) (cs : List Call) : Unfolder := cs.foldl call u

theorem unfoldRule_snd (u : Unfolder) (t : TriplesMap) (value : Option String) :
    (u.unfoldRule t value).value.2
      = ⟨u.settings, ((Call.rule t value).names u.settings).foldl Registry.merge u.registry⟩ := by
  cases hv : (t.unfold u.settings value).value with
  | error e => simp [unfoldRule, Call.names, TriplesMap.unfolded?, hv]
  | ok found =>
    cases found with
    | none => simp [unfoldRule, Call.names, TriplesMap.unfolded?, hv]
    | some r => simp [unfoldRule, Call.names, TriplesMap.unfolded?, absorb, hv]

theorem unfoldSubject_snd (u : Unfolder) (t : TriplesMap) :
    (u.unfoldSubject t).value.2
      = ⟨u.settings, ((Call.subject t).names u.settings).foldl Registry.merge u.registry⟩ := by
  cases hv : (t.unfoldSubject u.settings).value with
  | error e =>
    simp [unfoldSubject, Call.names, TriplesMap.unfoldedSubject?, Except.toOption, hv]
  | ok r =>
    simp [unfoldSubject, Call.names, TriplesMap.unfoldedSubject?, Except.toOption, absorb, hv]

theorem unfoldRule_snd_of_fst_ne {u : Unfolder} {t : TriplesMap} {value : Option String}
    (h : ∀ q, (u.unfoldRule t value).value.1 ≠ .ok (some q)) :
    (u.unfoldRule t value).value.2 = u := by
  cases hv : (t.unfold u.settings value).value with
  | error e => simp [unfoldRule, hv]
  | ok found =>
    cases found with
    | none => simp [unfoldRule, hv]
    | some r => exact absurd (by simp [unfoldRule, hv]) (h r.query)

theorem unfoldSubject_snd_of_fst_ne {u : Unfolder} {t : TriplesMap}
    (h : ∀ q, (u.unfoldSubject t).value.1 ≠ .ok q) : (u.unfoldSubject t).value.2 = u := by
  cases hv : (t.unfoldSubject u.settings).value with
  | error e => simp [unfoldSubject, hv]
  | ok r => exact absurd (by simp [unfoldSubject, hv]) (h r.query)

theorem call_eq (u : Unfolder) (c : Call) :
    u.call c = ⟨u.settings, (c.names u.settings).foldl Registry.merge u.registry⟩ := by
  cases c with
  | rule t value => exact u.unfoldRule_snd t value
  | subject t => exact u.unfoldSubject_snd t
  | document d => exact congrArg (·.value.2) (u.unfoldDocument_eq d)
  | absorb r => rfl

theorem names_parts (s : Settings) (c : Call) : c.parts.flatMap (Call.names s) = c.names s := by
  cases c with
  | document d =>
    simp only [Call.parts, Call.names, namesOf, List.flatMap_map, List.filterMap_eq_flatMap_toList]
  | rule t value => exact List.flatMap_singleton _ _
  | subject t => exact List.flatMap_singleton _ _
  | absorb r => exact List.flatMap_singleton _ _

theorem run_append (u : Unfolder) (cs cs' : List Call) : u.run (cs ++ cs') = (u.run cs).run cs' :=
  List.foldl_append

theorem run_eq (u : Unfolder) (cs : List Call) :
    u.run cs
      = ⟨u.settings, (cs.flatMap (Call.names u.settings)).foldl Registry.merge u.registry⟩ := by
  induction cs generalizing u with
  | nil => rfl
  | cons c cs ih =>
    have hcons : u.run (c :: cs) = (u.call c).run cs := rfl
    rw [hcons, ih, call_eq, List.flatMap_cons, List.foldl_append]

theorem grows_run (u : Unfolder) (cs : List Call) : u.registry.Grows (u.run cs).registry := by
  rw [run_eq]
  exact Registry.grows_foldl_merge _ u.registry

/-- Behind any calls the registry is the first one, merged with the names of the queries that were
given, in their order; a document is no more than its rules one by one. A call without a query
changes nothing, and between any two points of a run the registry only grows. -/
theorem registry_run (u : Unfolder) (cs : List Call) :
    (u.run cs).registry = (cs.flatMap (Call.names u.settings)).foldl Registry.merge u.registry
    ∧ u.run cs = u.run (cs.flatMap Call.parts)
    ∧ (∀ t value, (∀ q, (u.unfoldRule t value).value.1 ≠ .ok (some q)) →
      (u.unfoldRule t value).value.2 = u)
    ∧ (∀ t, (∀ q, (u.unfoldSubject t).value.1 ≠ .ok q) → (u.unfoldSubject t).value.2 = u)
    ∧ ∀ earlier later, (u.run earlier).registry.Grows (u.run (earlier ++ later)).registry := by
  refine ⟨?_, ?_, fun t value h => unfoldRule_snd_of_fst_ne h,
    fun t h => unfoldSubject_snd_of_fst_ne h, fun earlier later => ?_⟩
  · rw [run_eq]
  · rw [run_eq, run_eq, List.flatMap_assoc]
    simp only [names_parts]
  · rw [run_append]
    exact (u.run earlier).grows_run later

end reader

def fixedRule : TriplesMap := { crowdedRule with subject := .constant "http://example.org/emp" }

def sourcelessRule : TriplesMap := { joiningRule with table := .unsupported }

theorem registry_run_timetable :
    (startedUnfolder.unfoldRule strandedRule none).value.2 = startedUnfolder
    ∧ (startedUnfolder.unfoldRule fixedRule (some "http://example.org/trip")).value.2
      = startedUnfolder
    ∧ (startedUnfolder.unfoldSubject sourcelessRule).value.2 = startedUnfolder
    ∧ (startedUnfolder.run [.rule strandedRule none, .document timetable]).registry
      = (namesOf {} timetable.rules).foldl Registry.merge startedUnfolder.registry
    ∧ (namesOf {} timetable.rules).length = 2 := by
  have hstranded :
      (startedUnfolder.unfoldRule strandedRule none).value.1.toOption.join.isNone = true := by
    decide +kernel
  have hfixed : (startedUnfolder.unfoldRule fixedRule
      (some "http://example.org/trip")).value.1.toOption.join.isNone = true := by
    decide +kernel
  have hsourceless :
      (startedUnfolder.unfoldSubject sourcelessRule).value.1.toOption.isNone = true := by
    decide +kernel
  have hnames : (namesOf {} timetable.rules).length = 2 := by decide +kernel
  obtain ⟨hregistry, -, hrule, hsubject, -⟩ :=
    registry_run startedUnfolder [.rule strandedRule none, .document timetable]
  have hnone : Call.names {} (.rule strandedRule none) = [] := by
    rw [← List.isEmpty_iff]
    decide +kernel
  refine ⟨hrule _ _ fun q hq => ?_, hrule _ _ fun q hq => ?_, hsubject _ fun q hq => ?_, ?_, hnames⟩
  · rw [hq] at hstranded
    cases hstranded
  · rw [hq] at hfixed
    cases hfixed
  · rw [hq] at hsourceless
    cases hsourceless
  · rw [hregistry, List.flatMap_cons, List.flatMap_singleton]
    change List.foldl Registry.merge _ (Call.names {} _ ++ namesOf {} timetable.rules) = _
    rw [hnone, List.nil_append]

end Unfolder

end TriplesSql
