import TriplesSql.Command.Run
import TriplesSql.Proofs.Unfold.Naming
import TriplesSql.Proofs.Unfold.Restriction

/-!
# Labels under renaming

Where names in use are given numbers, a new output column either stands in the query already or has
a label that no output column has. So labels stay distinct; and as a candidate that is in use stays
in use for the same column, a column that is read again is given its label again.
-/

namespace TriplesSql

namespace Query

/-- Every output column has a label that no other one has. -/
structure Labelled (q : Query) : Prop where
  labelled : ∀ c ∈ q.outputs, ∃ label, c.label = some label
  distinct : q.outputs.Pairwise fun c d => c.label ≠ d.label

def label (q : Query) (c : OutputColumn) : OutputColumn :=
  { c with label := some (q.nameFor .rename c).value }

theorem eq_of_sameColumn {c d : OutputColumn} {name : String} (h : d.sameColumn c = true)
    (hl : d.label = some name) : d = { c with label := some name } := by
  obtain ⟨table, column, l⟩ := d
  obtain rfl : l = some name := hl
  simp only [OutputColumn.sameColumn, Bool.and_eq_true, decide_eq_true_eq] at h
  simp only [h.1, h.2]

theorem label_ne_of_outputNamed?_none {q : Query} {name : String} (h : q.outputNamed? name = none)
    {d : OutputColumn} (hd : d ∈ q.outputs) : d.label ≠ some name := by
  intro hl
  have hn := List.find?_eq_none.mp h d hd
  exact hn (by simpa using hl)

theorem addOutput_label (q : Query) (c : OutputColumn) :
    (q.label c ∈ q.outputs ∧ q.addOutput (q.label c) = q)
    ∨ ((∀ d ∈ q.outputs, d.label ≠ (q.label c).label)
      ∧ q.addOutput (q.label c) = { q with outputs := q.outputs ++ [q.label c] }) := by
  obtain ⟨k, -, hk, hname⟩ := q.nameFor_rename c
  have hfree := isTaken_eq_false_iff.mp hk.free
  rw [← hname] at hfree
  -- a free name is either that of the same column or that of none
  cases hf : q.outputNamed? (q.nameFor .rename c).value with
  | some d =>
    obtain ⟨hmem, hl⟩ := mem_of_outputNamed? hf
    have hd : d = q.label c := eq_of_sameColumn (hfree d hf) hl
    rw [hd] at hmem
    exact Or.inl ⟨hmem, if_pos hmem⟩
  | none =>
    have hnew : ∀ d ∈ q.outputs, d.label ≠ (q.label c).label :=
      fun d hd => label_ne_of_outputNamed?_none hf hd
    exact Or.inr ⟨hnew, if_neg fun hmem => hnew _ hmem rfl⟩

theorem Labelled.addOutput {q : Query} (h : q.Labelled) (c : OutputColumn) :
    (q.addOutput (q.label c)).Labelled := by
  rcases q.addOutput_label c with ⟨-, he⟩ | ⟨hnew, he⟩
  · rw [he]
    exact h
  · rw [he]
    constructor
    · intro d hd
      rcases List.mem_append.mp hd with hd | hd
      · exact h.labelled d hd
      · rw [List.mem_singleton.mp hd]
        exact ⟨_, rfl⟩
    · refine List.pairwise_append.mpr ⟨h.distinct, List.pairwise_singleton _ _, ?_⟩
      intro d hd e he
      rw [List.mem_singleton.mp he]
      exact hnew d hd

/-- Every output column has the label that it would be given again. -/
def Settled (q : Query) : Prop := ∀ c ∈ q.outputs, c = q.label c

section append

variable {q q' : Query} {d : OutputColumn}

theorem outputNamed?_append (h : q'.outputs = q.outputs ++ [d]) {name : String} {e : OutputColumn}
    (he : q.outputNamed? name = some e) : q'.outputNamed? name = some e := by
  unfold outputNamed? at he ⊢
  rw [h, List.find?_append, he]
  rfl

theorem isTaken_append (h : q'.outputs = q.outputs ++ [d]) {c : OutputColumn} {name : String}
    (ht : q.isTaken c name = true) : q'.isTaken c name = true := by
  obtain ⟨e, he, hs⟩ := isTaken_eq_true_iff.mp ht
  exact isTaken_eq_true_iff.mpr ⟨e, outputNamed?_append h he, hs⟩

theorem label_eq_of_isFirstFree {c : OutputColumn} {k : Nat} (hk : q.IsFirstFree c k) :
    q.label c = { c with label := some (candidate (outputName c.table c.column) k) } := by
  rw [label, hk.nameFor_eq]

theorem label_append_of_mem (h : q'.outputs = q.outputs ++ [d]) {c : OutputColumn}
    (hc : q.label c ∈ q.outputs) : q'.label c = q.label c := by
  obtain ⟨k, -, hk, hname⟩ := q.nameFor_rename c
  have hfree := isTaken_eq_false_iff.mp hk.free
  have hk' : q'.IsFirstFree c k := by
    refine ⟨isTaken_eq_false_iff.mpr fun e he => ?_, fun j hj => isTaken_append h (hk.before j hj)⟩
    cases hf : q.outputNamed? (candidate (outputName c.table c.column) k) with
    | none =>
      have hl := label_ne_of_outputNamed?_none hf hc
      exact absurd (congrArg some hname) hl
    | some e' =>
      rw [outputNamed?_append h hf] at he
      exact hfree e (he ▸ hf)
  rw [label_eq_of_isFirstFree hk, label_eq_of_isFirstFree hk']

theorem label_append_self {c : OutputColumn} (h : q'.outputs = q.outputs ++ [q.label c])
    (hnew : ∀ e ∈ q.outputs, e.label ≠ (q.label c).label) : q'.label c = q.label c := by
  obtain ⟨k, -, hk, hname⟩ := q.nameFor_rename c
  have hk' : q'.IsFirstFree c k := by
    refine ⟨isTaken_eq_false_iff.mpr fun e he => ?_, fun j hj => isTaken_append h (hk.before j hj)⟩
    obtain ⟨hmem, hl⟩ := mem_of_outputNamed? he
    rw [h] at hmem
    rcases List.mem_append.mp hmem with hmem | hmem
    · refine absurd ?_ (hnew e hmem)
      rw [hl, ← hname]
      rfl
    · rw [List.mem_singleton.mp hmem]
      simp [OutputColumn.sameColumn, label]
  rw [label_eq_of_isFirstFree hk, label_eq_of_isFirstFree hk']

end append

theorem Settled.addOutput {q : Query} (h : q.Settled) (c : OutputColumn) :
    (q.addOutput (q.label c)).Settled := by
  rcases q.addOutput_label c with ⟨-, he⟩ | ⟨hnew, he⟩
  · rw [he]
    exact h
  · intro d hd
    rw [he] at hd ⊢
    rcases List.mem_append.mp hd with hd | hd
    · have hmem : q.label d ∈ q.outputs := by
        rw [← h d hd]
        exact hd
      rw [label_append_of_mem rfl hmem]
      exact h d hd
    · rw [List.mem_singleton.mp hd]
      exact (label_append_self rfl hnew).symm

end Query

namespace Progress

theorem project_invariant {P : Query → Prop} (add : ∀ q c, P q → P (q.addOutput (q.label c)))
    {s : Settings} (hs : s.onCollision = .rename) (a : TermAddress) (references : List String)
    (table : String) {p : Progress} (h : P p.query) :
    P (p.project s a references table).query := by
  refine List.foldlRecOn (motive := fun p : Progress => P p.query) references _ h ?_
  intro q hq reference _
  cases hc : OutputColumn.ofReference? reference table with
  | none =>
    rw [addColumn_of_none hc]
    exact hq
  | some c =>
    rw [addColumn_query hc, hs]
    exact add q.query c hq

theorem foldl_invariant {P : Query → Prop} (add : ∀ q c, P q → P (q.addOutput (q.label c)))
    {s : Settings} (hs : s.onCollision = .rename) (reads : List TermRead) {p : Progress}
    (h : P p.query) : P (reads.foldl (projectRead s) p).query := by
  refine List.foldlRecOn (motive := fun p : Progress => P p.query) reads _ h ?_
  intro q hq r _
  exact project_invariant add hs r.address r.references r.source hq

end Progress

theorem Query.Labelled.congr {q q' : Query} (h : q.Labelled) (he : q'.outputs = q.outputs) :
    q'.Labelled := by
  constructor
  · rw [he]
    exact h.labelled
  · rw [he]
    exact h.distinct

/-- Under renaming labels are distinct: the reading of columns keeps them so, whatever the columns
are, and so they are in every query of a rule. -/
theorem labelled_of_unfold [SqlReader] (s : Settings) (hs : s.onCollision = .rename) :
    (∀ (p : Progress) (a : TermAddress) (references : List String) (table : String),
      p.query.Labelled → (p.project s a references table).query.Labelled)
    ∧ ∀ (t : TriplesMap) (subject : Option String) (u : Unfolded),
      (t.unfold s subject).value = .ok (some u) → u.query.Labelled := by
  constructor
  · intro p a references table h
    exact Progress.project_invariant (fun q c hq => hq.addOutput c) hs a references table h
  · intro t subject u hu
    obtain ⟨p, hp, hout, -, -⟩ := TriplesMap.unfold_eq_some hu
    have hnames := (TriplesMap.reached_of_unfoldAll hp).names.outputs
    have hstart : (Progress.start s.dialect []).query.Labelled :=
      ⟨fun c hc => absurd hc List.not_mem_nil, List.Pairwise.nil⟩
    have hall := Progress.foldl_invariant (fun q c hq => hq.addOutput c) hs
      (t.readsUpTo s t.predicateObjects.length) hstart
    exact hall.congr (hout.trans hnames)

/-- A rule with three columns whose plain names run into each other's names with numbers. -/
def crowdedRule : TriplesMap where
  id := "Emp"
  table := .tableName "employee"
  subject := .column "a b"
  predicateObjects := [⟨[], [.column "a_b"], []⟩, ⟨[], [.column "a b"], []⟩,
    ⟨[], [.column "a_b_2"], []⟩]

theorem labelled_crowdedRule : ∃ u, (crowdedRule.unfold {} none).value = .ok (some u)
    ∧ u.query.outputs.map (·.label) = [some "T1_a_b", some "T1_a_b_2", some "T1_a_b_2_2"]
    ∧ u.query.Labelled := by
  have hout : (crowdedRule.unfold {} none).value.toOption.join.map
      (fun u => u.query.outputs.map (·.label))
        = some [some "T1_a_b", some "T1_a_b_2", some "T1_a_b_2_2"] := by decide +kernel
  obtain ⟨u, hu, hlabels⟩ := TriplesMap.exists_of_map_eq_some hout
  exact ⟨u, hu, hlabels, (labelled_of_unfold {} rfl).2 crowdedRule none u hu⟩

end TriplesSql
