import TriplesSql.Template.Matching

/-!
# Ways to take a value apart

The pieces that matching takes are one of the ways to write the value as the literal segments with
a piece for each placeholder, and the first of them in the order of the lengths of their pieces.
-/

namespace TriplesSql.Template

/-- The segments take a text apart into pieces for their placeholders. -/
inductive Splits : List Segment → List (List Char) → List Char → Prop where
  | nil : Splits [] [] []
  | literal {text : String} {segments : List Segment} {pieces : List (List Char)}
      {cs : List Char} (rest : Splits segments pieces cs) :
      Splits (.literal text :: segments) pieces (text.toList ++ cs)
  | column {name : String} {segments : List Segment} {piece : List Char}
      {pieces : List (List Char)} {cs : List Char} (nonempty : piece ≠ [])
      (oneLine : '\n' ∉ piece) (rest : Splits segments pieces cs) :
      Splits (.column name :: segments) (piece :: pieces) (piece ++ cs)

/-- Pieces come before others if they are shorter at the first place where lengths differ. -/
def Earlier (pieces other : List (List Char)) : Prop :=
  List.Lex (· < ·) (pieces.map List.length) (other.map List.length)

/-- The first way to take a text apart. -/
structure IsFirstSplit (segments : List Segment) (pieces : List (List Char)) (cs : List Char) :
    Prop where
  splits : Splits segments pieces cs
  least : ∀ other, Splits segments other cs → ¬Earlier other pieces

variable {segments : List Segment} {pieces other : List (List Char)} {cs : List Char}

theorem splits_literal_iff {text : String} :
    Splits (.literal text :: segments) pieces cs
      ↔ ∃ rest, cs = text.toList ++ rest ∧ Splits segments pieces rest := by
  constructor
  · intro h
    cases h with
    | literal rest => exact ⟨_, rfl, rest⟩
  · rintro ⟨rest, rfl, h⟩
    exact .literal h

theorem splits_column_iff {name : String} :
    Splits (.column name :: segments) pieces cs
      ↔ ∃ piece tail rest, pieces = piece :: tail ∧ cs = piece ++ rest ∧ piece ≠ []
        ∧ '\n' ∉ piece ∧ Splits segments tail rest := by
  constructor
  · intro h
    cases h with
    | column nonempty oneLine rest => exact ⟨_, _, _, rfl, rfl, nonempty, oneLine, rest⟩
  · rintro ⟨piece, tail, rest, rfl, rfl, hne, hline, h⟩
    exact .column hne hline h

theorem Splits.append {front : List Segment} {short : List (List Char)} {text : List Char}
    (hf : Splits front short text) (h : Splits segments pieces cs) :
    Splits (front ++ segments) (short ++ pieces) (text ++ cs) := by
  induction hf with
  | nil => exact h
  | literal rest ih =>
    rw [List.append_assoc]
    exact .literal ih
  | column nonempty oneLine rest ih =>
    rw [List.append_assoc]
    exact .column nonempty oneLine ih

theorem not_earlier_nil (pieces : List (List Char)) : ¬Earlier pieces [] := List.not_lex_nil

theorem earlier_cons_iff {piece piece' : List Char} :
    Earlier (piece :: pieces) (piece' :: other)
      ↔ piece.length < piece'.length ∨ piece.length = piece'.length ∧ Earlier pieces other :=
  List.cons_lex_cons_iff

theorem Splits.eq_of_not_earlier (h : Splits segments pieces cs) (ho : Splits segments other cs)
    (hpo : ¬Earlier pieces other) (hop : ¬Earlier other pieces) : pieces = other := by
  induction h generalizing other with
  | nil =>
    cases ho with
    | nil => rfl
  | literal rest ih =>
    obtain ⟨cs', hcs, ho⟩ := splits_literal_iff.mp ho
    rw [List.append_cancel_left_eq] at hcs
    subst hcs
    exact ih ho hpo hop
  | column nonempty oneLine rest ih =>
    obtain ⟨piece, tail, cs', rfl, hcs, -, -, ho⟩ := splits_column_iff.mp ho
    rw [earlier_cons_iff, not_or, not_and] at hpo hop
    have hlen := Nat.le_antisymm (Nat.le_of_not_lt hop.1) (Nat.le_of_not_lt hpo.1)
    obtain ⟨rfl, rfl⟩ := List.append_inj hcs hlen
    rw [ih ho (hpo.2 rfl) (hop.2 rfl)]

theorem IsFirstSplit.unique (h : IsFirstSplit segments pieces cs)
    (ho : IsFirstSplit segments other cs) : pieces = other :=
  h.splits.eq_of_not_earlier ho.splits (ho.least pieces h.splits) (h.least other ho.splits)

theorem IsFirstSplit.literal {text : String} (h : IsFirstSplit segments pieces cs) :
    IsFirstSplit (.literal text :: segments) pieces (text.toList ++ cs) := by
  refine ⟨.literal h.splits, fun other ho => ?_⟩
  obtain ⟨rest, hcs, ho⟩ := splits_literal_iff.mp ho
  rw [List.append_cancel_left_eq] at hcs
  subst hcs
  exact h.least other ho

theorem IsFirstSplit.column {name : String} {piece : List Char} (hne : piece ≠ [])
    (hline : '\n' ∉ piece)
    (hshort : ∀ shorter behind, piece ++ cs = shorter ++ behind → shorter ≠ [] →
      shorter.length < piece.length → ∀ tail, ¬Splits segments tail behind)
    (h : IsFirstSplit segments pieces cs) :
    IsFirstSplit (.column name :: segments) (piece :: pieces) (piece ++ cs) := by
  refine ⟨.column hne hline h.splits, fun other ho => ?_⟩
  obtain ⟨piece', tail', rest', rfl, hcs, hne', -, ho⟩ := splits_column_iff.mp ho
  rw [earlier_cons_iff]
  rintro (hlt | ⟨heq, hearlier⟩)
  · exact hshort piece' rest' hcs hne' hlt tail' ho
  · obtain ⟨rfl, rfl⟩ := List.append_inj hcs heq.symm
    exact h.least tail' ho hearlier

theorem IsFirstSplit.of_literal {text : String}
    (h : IsFirstSplit (.literal text :: segments) pieces cs) :
    ∃ rest, cs = text.toList ++ rest ∧ IsFirstSplit segments pieces rest := by
  obtain ⟨rest, rfl, hs⟩ := splits_literal_iff.mp h.splits
  exact ⟨rest, rfl, hs, fun other ho => h.least other (.literal ho)⟩

theorem IsFirstSplit.of_column {name : String}
    (h : IsFirstSplit (.column name :: segments) pieces cs) :
    ∃ piece tail rest, pieces = piece :: tail ∧ cs = piece ++ rest
      ∧ IsFirstSplit segments tail rest
      ∧ ∀ piece' tail', Splits (.column name :: segments) (piece' :: tail') cs →
        piece.length ≤ piece'.length := by
  obtain ⟨piece, tail, rest, rfl, rfl, hne, hline, hs⟩ := splits_column_iff.mp h.splits
  refine ⟨piece, tail, rest, rfl, rfl, ⟨hs, fun other ho hearlier => ?_⟩, ?_⟩
  · exact h.least _ (.column hne hline ho) (earlier_cons_iff.mpr (Or.inr ⟨rfl, hearlier⟩))
  · intro piece' tail' ho
    refine Nat.le_of_not_lt fun hlt => ?_
    exact h.least _ ho (earlier_cons_iff.mpr (Or.inl hlt))

theorem IsFirstSplit.append_short {front : List Segment} {short : List (List Char)}
    {text : List Char} (hf : Splits front short text) (hone : ∀ piece ∈ short, piece.length ≤ 1)
    (h : IsFirstSplit segments pieces cs) :
    IsFirstSplit (front ++ segments) (short ++ pieces) (text ++ cs) := by
  induction hf with
  | nil => exact h
  | literal rest ih =>
    rw [List.append_assoc]
    exact (ih hone).literal
  | column nonempty oneLine rest ih =>
    have hrest := ih fun piece hm => hone piece (List.mem_cons_of_mem _ hm)
    rw [List.append_assoc]
    refine hrest.column nonempty oneLine fun shorter behind _ hne hlt => ?_
    have hlen := hone _ List.mem_cons_self
    have hpos := List.length_pos_iff.mpr hne
    omega

theorem behind?_append (literal rest : List Char) :
    behind? literal (literal ++ rest) = some rest := by
  rw [behind?_eq, if_pos (List.isPrefixOf_iff_prefix.mpr (List.prefix_append literal rest)),
    List.drop_left]

theorem behind?_eq_some_iff {literal rest : List Char} :
    behind? literal cs = some rest ↔ cs = literal ++ rest := by
  constructor
  · intro h
    rw [behind?_eq] at h
    split at h
    · next hp =>
      obtain ⟨tail, rfl⟩ := List.isPrefixOf_iff_prefix.mp hp
      rw [List.drop_left, Option.some.injEq] at h
      rw [h]
    · cases h
  · rintro rfl
    exact behind?_append literal rest

section shortest

variable {next : List Char → Option (List (List Char))}

theorem next_eq_none_of_shortest (h : shortest next cs = none) {piece rest : List Char}
    (hcs : cs = piece ++ rest) (hne : piece ≠ []) (hline : '\n' ∉ piece) : next rest = none := by
  induction cs generalizing piece with
  | nil =>
    obtain ⟨rfl, -⟩ := List.append_eq_nil_iff.mp hcs.symm
    exact absurd rfl hne
  | cons c cs ih =>
    cases piece with
    | nil => exact absurd rfl hne
    | cons d piece =>
      rw [List.cons_append, List.cons.injEq] at hcs
      obtain ⟨rfl, rfl⟩ := hcs
      have hc : c ≠ '\n' := fun he => hline (he ▸ List.mem_cons_self)
      rw [shortest, if_neg hc] at h
      cases hn : next (piece ++ rest) with
      | some found => simp [hn] at h
      | none =>
        simp only [hn, Option.map_eq_none_iff] at h
        cases piece with
        | nil => exact hn
        | cons e piece =>
          exact ih h rfl (List.cons_ne_nil e piece) fun hm => hline (List.mem_cons_of_mem c hm)

theorem exists_of_shortest (h : shortest next cs = some pieces) :
    ∃ piece tail rest, pieces = piece :: tail ∧ cs = piece ++ rest ∧ piece ≠ [] ∧ '\n' ∉ piece
      ∧ next rest = some tail ∧ ∀ shorter behind, cs = shorter ++ behind → shorter ≠ [] →
        shorter.length < piece.length → next behind = none := by
  -- one character is tried first, and a longer piece only where the rest has no way
  induction cs generalizing pieces with
  | nil => cases h
  | cons c cs ih =>
    rw [shortest] at h
    split at h
    · cases h
    next hc =>
    cases hn : next cs with
    | some tail =>
      simp only [hn, Option.some.injEq] at h
      refine ⟨[c], tail, cs, h.symm, rfl, List.cons_ne_nil c [], ?_, hn, ?_⟩
      · rw [List.mem_singleton]
        exact Ne.symm hc
      · intro shorter behind _ hne hlt
        cases shorter with
        | nil => exact absurd rfl hne
        | cons d shorter =>
          simp only [List.length_cons, List.length_nil] at hlt
          omega
    | none =>
      simp only [hn, Option.map_eq_some_iff] at h
      obtain ⟨found, hfound, rfl⟩ := h
      obtain ⟨piece, tail, rest, rfl, rfl, hne, hline, hnext, hleast⟩ := ih hfound
      refine ⟨c :: piece, tail, rest, rfl, rfl, List.cons_ne_nil c piece, ?_, hnext, ?_⟩
      · rw [List.mem_cons, not_or]
        exact ⟨Ne.symm hc, hline⟩
      · intro shorter behind hcs hshort hlt
        cases shorter with
        | nil => exact absurd rfl hshort
        | cons d shorter =>
          obtain ⟨rfl, ht⟩ := List.cons.inj hcs
          cases shorter with
          | nil =>
            obtain rfl : piece ++ rest = behind := ht
            exact hn
          | cons e shorter =>
            exact hleast (e :: shorter) behind ht (List.cons_ne_nil e shorter)
              (Nat.lt_of_succ_lt_succ hlt)

end shortest

theorem not_splits_of_split?_eq_none (h : split? segments cs = none) :
    ¬Splits segments pieces cs := by
  induction segments generalizing pieces cs with
  | nil =>
    intro hs
    cases hs with
    | nil => cases h
  | cons segment segments ih =>
    intro hs
    cases segment with
    | literal text =>
      obtain ⟨rest, rfl, htail⟩ := splits_literal_iff.mp hs
      rw [split?, behind?_append] at h
      exact ih h htail
    | column name =>
      obtain ⟨piece, tail, rest, rfl, hcs, hne, hline, hs⟩ := splits_column_iff.mp hs
      exact ih (next_eq_none_of_shortest h hcs hne hline) hs

theorem isFirstSplit_of_split? (h : split? segments cs = some pieces) :
    IsFirstSplit segments pieces cs := by
  induction segments generalizing pieces cs with
  | nil =>
    cases cs with
    | nil =>
      obtain rfl : [] = pieces := Option.some.inj h
      exact ⟨.nil, fun other _ => not_earlier_nil other⟩
    | cons c cs => cases h
  | cons segment segments ih =>
    cases segment with
    | literal text =>
      obtain ⟨rest, hb, hs⟩ := Option.bind_eq_some_iff.mp h
      obtain rfl := behind?_eq_some_iff.mp hb
      exact (ih hs).literal
    | column name =>
      obtain ⟨piece, tail, rest, rfl, rfl, hne, hline, hnext, hleast⟩ := exists_of_shortest h
      refine (ih hnext).column hne hline fun shorter behind hcs hshort hlt tail ho => ?_
      exact not_splits_of_split?_eq_none (hleast shorter behind hcs hshort hlt) ho

/-- The pieces that are taken are those of the first way. -/
theorem split?_eq_some_iff :
    split? segments cs = some pieces ↔ IsFirstSplit segments pieces cs := by
  constructor
  · exact isFirstSplit_of_split?
  · intro h
    cases hs : split? segments cs with
    | none => exact absurd h.splits (not_splits_of_split?_eq_none hs)
    | some found => rw [(isFirstSplit_of_split? hs).unique h]

theorem Splits.exists_isFirstSplit (h : Splits segments pieces cs) :
    ∃ first, IsFirstSplit segments first cs := by
  cases hs : split? segments cs with
  | none => exact absurd h (not_splits_of_split?_eq_none hs)
  | some first => exact ⟨first, isFirstSplit_of_split? hs⟩

end TriplesSql.Template
