import TriplesSql.Proofs.Command.Loading
import TriplesSql.Proofs.Unfold.Listing

/-!
# What becomes of a request for queries

A request fails if it finds no settings or no document, or if it names a rule that is not there or
that cannot be unfolded; it prints nothing then. In all other cases it succeeds. For a document it
prints the queries of all rules that can be unfolded, in the order of the names of the rules, and if
it is asked to also the names given in these queries.
-/

namespace TriplesSql.Command

variable {around : Surroundings} {r : UnfoldRequest} {s : Settings} {d : Document}
  {t : TriplesMap}

def namesLines (r : UnfoldRequest) (names : Registry) : List String :=
  if r.showAliases then [registryLine names] else []

def written (lines : List String) : String := String.join (lines.map (· ++ "\n"))

/-- Why a request fails. -/
inductive Fails (around : Surroundings) (r : UnfoldRequest) : Prop where
  | settings (h : ∀ s, ¬FindsSettings around r.config s)
  | document (h : ∀ d, ¬HoldsDocument around.files r.file d)
  | absent {d : Document} {id : String} (hd : HoldsDocument around.files r.file d)
    (hr : r.rule = some id) (h : ∀ t ∈ d.rules, t.id ≠ id)
  | stopped {d : Document} {t : TriplesMap} (hd : HoldsDocument around.files r.file d)
    (ht : t ∈ d.rules) (hr : r.rule = some t.id) (h : ¬t.IsUnfoldable)

section reader

variable [SqlReader]

theorem runUnfold_eq (hs : FindsSettings around r.config s)
    (hd : HoldsDocument around.files r.file d) :
    runUnfold around r = (match r.rule with
      | some id => unfoldOne (Unfolder.new (r.adjust s)) d id r.subject
      | none => .ok (unfoldEach (Unfolder.new (r.adjust s)) d)).map
        fun found : List String × Registry => found.1 ++ namesLines r found.2 := by
  have hsettings := loadSettings_eq_ok_iff.mpr ⟨s, hs, rfl⟩
  have hdocument := loadDocument_eq_ok_iff.mpr hd
  unfold runUnfold
  rw [hsettings, hdocument]
  cases r.rule with
  | none => rfl
  | some id =>
    show (unfoldOne _ d id r.subject >>= _) = (unfoldOne _ d id r.subject).map _
    cases unfoldOne (Unfolder.new (r.adjust s)) d id r.subject <;> rfl

theorem unfoldOne_eq (hids : (d.rules.map (·.id)).Nodup) (ht : t ∈ d.rules)
    (subject : Option String) :
    unfoldOne (Unfolder.new s) d t.id subject = match (t.unfold s subject).value with
      | .error e => .error ("Unfolding error: " ++ e.message)
      | .ok none => .ok (["-- " ++ t.id ++ ": no rows can produce the requested subject"], ∅)
      | .ok (some u) => .ok (queryLines t.id u.query, u.registry) := by
  have hget : d.get? t.id = some t := (find?_key_eq_some_iff hids).mpr ⟨ht, rfl⟩
  unfold unfoldOne
  rw [hget]
  cases hv : (t.unfold s subject).value with
  | error e => simp [Unfolder.unfoldRule, Unfolder.new, hv]
  | ok found =>
    cases found with
    | none => simp [Unfolder.unfoldRule, Unfolder.new, hv]
    | some u =>
      have hnames : (∅ : Registry).merge u.registry = u.registry :=
        (TriplesMap.tidy_of_unfold hv).empty_merge
      simp [Unfolder.unfoldRule, Unfolder.new, Unfolder.absorb, hv, hnames]

theorem unfoldEach_eq (hids : (d.rules.map (·.id)).Nodup) : ∃ us names, d.IsListed s us
    ∧ names.Collects (us.map (·.2.registry))
    ∧ unfoldEach (Unfolder.new s) d
      = (us.flatMap fun u => queryLines u.1.id u.2.query ++ [""], names) := by
  obtain ⟨us, hlisted, hqueries, hnames⟩ := Unfolder.unfoldDocument_new_listed s hids
  refine ⟨us, _, hlisted, hnames, ?_⟩
  simp only [unfoldEach, hqueries, List.flatMap_map]

theorem runUnfold_all (hs : FindsSettings around r.config s)
    (hd : HoldsDocument around.files r.file d) (hr : r.rule = none) :
    ∃ us names, d.IsListed (r.adjust s) us ∧ names.Collects (us.map (·.2.registry))
      ∧ runUnfold around r = .ok
        ((us.flatMap fun u => queryLines u.1.id u.2.query ++ [""]) ++ namesLines r names) := by
  obtain ⟨us, names, hlisted, hnames, heach⟩ := unfoldEach_eq (s := r.adjust s) hd.nodup_ids
  refine ⟨us, names, hlisted, hnames, ?_⟩
  rw [runUnfold_eq hs hd, hr, heach]
  rfl

theorem runUnfold_one (hs : FindsSettings around r.config s)
    (hd : HoldsDocument around.files r.file d) (ht : t ∈ d.rules) (hr : r.rule = some t.id) :
    runUnfold around r = match (t.unfold (r.adjust s) r.subject).value with
      | .error e => .error ("Unfolding error: " ++ e.message)
      | .ok none => .ok (["-- " ++ t.id ++ ": no rows can produce the requested subject"]
        ++ namesLines r ∅)
      | .ok (some u) => .ok (queryLines t.id u.query ++ namesLines r u.registry) := by
  rw [runUnfold_eq hs hd, hr]
  dsimp only
  rw [unfoldOne_eq hd.nodup_ids ht]
  cases (t.unfold (r.adjust s) r.subject).value with
  | error e => rfl
  | ok found => cases found <;> rfl

theorem unfoldOne_of_absent {id : String} (h : ∀ t ∈ d.rules, t.id ≠ id) (u : Unfolder)
    (subject : Option String) :
    unfoldOne u d id subject = .error ("Triples map not found: " ++ id) := by
  have hget : d.get? id = none := List.find?_eq_none.mpr (by simpa using h)
  simp only [unfoldOne, hget]

theorem found_of_runUnfold_eq_ok {lines : List String} (h : runUnfold around r = .ok lines) :
    (∃ s, FindsSettings around r.config s) ∧ ∃ d, HoldsDocument around.files r.file d := by
  obtain ⟨s', hs, h⟩ := bind_eq_ok_iff.mp h
  obtain ⟨d, hd, -⟩ := bind_eq_ok_iff.mp h
  obtain ⟨s, hfound, -⟩ := loadSettings_eq_ok_iff.mp hs
  exact ⟨⟨s, hfound⟩, d, loadDocument_eq_ok_iff.mp hd⟩

theorem Fails.runUnfold_ne_ok (h : Fails around r) (lines : List String) :
    runUnfold around r ≠ .ok lines := by
  intro hok
  obtain ⟨⟨s, hs⟩, d, hd⟩ := found_of_runUnfold_eq_ok hok
  cases h with
  | settings h => exact h s hs
  | document h => exact h d hd
  | absent hd' hr h =>
    rw [runUnfold_eq hs hd', hr] at hok
    dsimp only at hok
    rw [unfoldOne_of_absent h] at hok
    cases hok
  | stopped hd' ht hr h =>
    obtain ⟨e, he⟩ := TriplesMap.exists_unfold_eq_error_iff.mpr h
    rw [runUnfold_one hs hd' ht hr, he] at hok
    cases hok

theorem run_of_ofArguments? {args : List String}
    (hargs : Request.ofArguments? args = some (.unfold r)) :
    run around args = match runUnfold around r with
      | .ok lines => .success lines
      | .error message => .failure message := by
  rw [run, hargs]
  rfl

theorem output_of_error {args : List String} {message : String}
    (hargs : Request.ofArguments? args = some (.unfold r))
    (h : runUnfold around r = .error message) : (run around args).output = "" := by
  rw [run_of_ofArguments? hargs, h]
  rfl

theorem output_of_runUnfold {args : List String} {lines : List String}
    (hargs : Request.ofArguments? args = some (.unfold r)) (h : runUnfold around r = .ok lines) :
    (run around args).output = written lines := by
  rw [run_of_ofArguments? hargs, h]
  rfl

end reader

end TriplesSql.Command
