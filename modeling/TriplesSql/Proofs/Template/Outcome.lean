import TriplesSql.Proofs.Template.Binding
import TriplesSql.Proofs.Template.Splitting

/-!
# What matching gives

Matching looks at the first way to take a value apart and at no other one. It fails where there is
no way, and where the pieces of the first way have no texts or disagree on the text of a name.
-/

namespace TriplesSql.Template

open Text

variable {segments : List Segment} {pieces other : List (List Char)} {cs : List Char}
  {named : List (String × List Char)}

theorem Splits.length_pieces (h : Splits segments pieces cs) :
    pieces.length = (placeholders segments).length := by
  induction h with
  | nil => rfl
  | literal rest ih => exact ih
  | column nonempty oneLine rest ih => exact congrArg Nat.succ ih

theorem Splits.map_fst_zip (h : Splits segments pieces cs) :
    ((placeholders segments).zip pieces).map Prod.fst = placeholders segments :=
  List.map_fst_zip (Nat.le_of_eq h.length_pieces.symm)

theorem IsFirstSplit.eq_or_earlier (h : IsFirstSplit segments pieces cs)
    (ho : Splits segments other cs) : other = pieces ∨ Earlier pieces other := by
  by_cases he : Earlier pieces other
  · exact Or.inr he
  · exact Or.inl (ho.eq_of_not_earlier h.splits (h.least other ho) he)

theorem isFirstSplit_iff : IsFirstSplit segments pieces cs
    ↔ Splits segments pieces cs
      ∧ ∀ other, Splits segments other cs → other = pieces ∨ Earlier pieces other := by
  constructor
  · intro h
    exact ⟨h.splits, fun other => h.eq_or_earlier⟩
  · rintro ⟨h, hall⟩
    refine ⟨h, fun other ho hearlier => ?_⟩
    rcases hall other ho with rfl | hlater
    · exact List.lex_irrefl Nat.lt_irrefl _ hearlier
    · exact List.lex_asymm Nat.lt_asymm hearlier hlater

/-- A piece has no text, or two pieces of one name have different texts. -/
def Conflicts (named : List (String × List Char)) : Prop :=
  (∃ x ∈ named, Percent.decode? x.2 = none)
  ∨ ∃ x ∈ named, ∃ y ∈ named, x.1 = y.1 ∧ Percent.decode? x.2 ≠ Percent.decode? y.2

theorem not_conflicts_iff : ¬Conflicts named ↔ ∃ text, Carries text named := by
  constructor
  · intro h
    unfold Conflicts at h
    rw [not_or] at h
    obtain ⟨hnone, hdiffer⟩ := h
    -- a name gets the text of its first piece
    let text (name : String) : String :=
      ((named.find? (·.1 = name)).bind fun x => Percent.decode? x.2).getD ""
    refine ⟨text, fun x hx => ?_⟩
    obtain ⟨v, hv⟩ := Option.ne_none_iff_exists'.mp fun hd => hnone ⟨x, hx, hd⟩
    obtain ⟨y, hy⟩ : ∃ y, named.find? (·.1 = x.1) = some y := by
      rw [← Option.isSome_iff_exists, List.find?_isSome]
      exact ⟨x, hx, decide_eq_true rfl⟩
    have hname : y.1 = x.1 := by simpa using List.find?_some hy
    have hsame : Percent.decode? y.2 = Percent.decode? x.2 := by
      by_contra hne
      exact hdiffer ⟨y, List.mem_of_find?_eq_some hy, x, hx, hname, hne⟩
    have htext : text x.1 = v := by
      show ((named.find? (·.1 = x.1)).bind fun x => Percent.decode? x.2).getD "" = v
      rw [hy, Option.bind_some, hsame, hv, Option.getD_some]
    rw [hv, htext]
  · rintro ⟨text, htext⟩ (⟨x, hx, hnone⟩ | ⟨x, hx, y, hy, hname, hne⟩)
    · rw [htext x hx] at hnone
      cases hnone
    · rw [htext x hx, htext y hy, hname] at hne
      exact hne rfl

theorem bindPieces_eq_none_iff : bindPieces [] named = none ↔ Conflicts named := by
  rw [← not_iff_not, not_conflicts_iff, ← ne_eq, Option.ne_none_iff_exists']
  simp only [bindPieces_eq_some_iff]
  constructor
  · rintro ⟨bindings, text, htext, -⟩
    exact ⟨text, htext⟩
  · rintro ⟨text, htext⟩
    exact ⟨_, text, htext, rfl⟩

theorem bindings?_of_parse_error {template value : String} {e : Malformed}
    (h : parse template = .error e) : bindings? template value = none := by
  simp only [bindings?, h]
  rfl

theorem bindings?_eq_some_iff {template value : String} {bindings : Bindings}
    (hp : parse template = .ok segments) : bindings? template value = some bindings
      ↔ ∃ pieces, IsFirstSplit segments pieces value.toList
        ∧ ∃ text, Carries text ((placeholders segments).zip pieces)
          ∧ bindings = bindingsOf text (placeholders segments) := by
  rw [bindings?_of_parse hp, Option.bind_eq_some_iff]
  refine exists_congr fun pieces => ?_
  rw [split?_eq_some_iff]
  refine and_congr_right fun hfirst => ?_
  rw [bindPieces_eq_some_iff, hfirst.splits.map_fst_zip]

theorem parse_of_bindings? {template value : String} {bindings : Bindings}
    (h : bindings? template value = some bindings) :
    ∃ segments, parse template = .ok segments := by
  cases hp : parse template with
  | error e =>
    rw [bindings?_of_parse_error hp] at h
    cases h
  | ok segments => exact ⟨segments, rfl⟩

/-- A malformed template gives nothing. A value that cannot be written as the literals with a piece
for each placeholder gives nothing. Otherwise one way to write it comes before all others, and that
way decides: it gives nothing if its pieces conflict, and else each name with the text of its
pieces, in order of first appearance. -/
theorem bindings?_outcome (template value : String) :
    match parse template with
    | .error _ => bindings? template value = none
    | .ok segments =>
      ((∀ pieces, ¬Splits segments pieces value.toList) ∧ bindings? template value = none)
      ∨ ∃ pieces, Splits segments pieces value.toList
        ∧ (∀ other, Splits segments other value.toList → other = pieces ∨ Earlier pieces other)
        ∧ ((Conflicts ((placeholders segments).zip pieces) ∧ bindings? template value = none)
          ∨ ¬Conflicts ((placeholders segments).zip pieces)
            ∧ ∃ text : String → String,
              (∀ x ∈ (placeholders segments).zip pieces, Percent.decode? x.2 = some (text x.1))
              ∧ bindings? template value
                = some ((placeholders segments).eraseDups.map fun name => (name, text name))) := by
  cases hp : parse template with
  | error e => exact bindings?_of_parse_error hp
  | ok segments =>
    show _ ∨ _
    rw [bindings?_of_parse hp]
    cases hs : split? segments value.toList with
    | none => exact Or.inl ⟨fun pieces => not_splits_of_split?_eq_none hs, rfl⟩
    | some pieces =>
      have hfirst := split?_eq_some_iff.mp hs
      refine Or.inr ⟨pieces, hfirst.splits, fun other => hfirst.eq_or_earlier, ?_⟩
      rw [Option.bind_some]
      cases hb : bindPieces [] ((placeholders segments).zip pieces) with
      | none => exact Or.inl ⟨bindPieces_eq_none_iff.mp hb, rfl⟩
      | some bindings =>
        obtain ⟨text, htext, rfl⟩ := bindPieces_eq_some_iff.mp hb
        rw [hfirst.splits.map_fst_zip]
        exact Or.inr ⟨not_conflicts_iff.mpr ⟨text, htext⟩, text, htext, rfl⟩

example : bindings? "\x7ba\x7d\x7bb\x7d-\x7ba\x7d" "1%2-%31" = some [("a", "1"), ("b", "%2")]
    ∧ bindings? "\x7ba\x7d\x7bb\x7d-\x7ba\x7d" "11-11" = none := by decide +kernel

end TriplesSql.Template
