import TriplesSql.Proofs.Template.Outcome
import TriplesSql.Proofs.Template.Separation
import TriplesSql.Proofs.Text.Decoding

/-!
# Values that are lost

A value that some row gives is lost if the first way to take it apart has pieces without texts, or
pieces of one name with different texts. Which templates lose no value is seen from the names and
from the texts between neighbouring placeholders.
-/

namespace TriplesSql.Template

open Text

variable {segments back : List Segment} {own pieces first : List (List Char)} {cs : List Char}
  {name : String}

/-- Wherever the pieces of some way do not conflict, those of the first way do not. -/
def Recovers (segments : List Segment) : Prop :=
  ∀ cs own first, Splits segments own cs → ¬Conflicts ((placeholders segments).zip own) →
    IsFirstSplit segments first cs → ¬Conflicts ((placeholders segments).zip first)

theorem bindings?_ne_none_iff {template value : String} (hp : parse template = .ok segments) :
    bindings? template value ≠ none
      ↔ ∃ pieces, IsFirstSplit segments pieces value.toList
        ∧ ¬Conflicts ((placeholders segments).zip pieces) := by
  rw [Option.ne_none_iff_exists']
  simp only [bindings?_eq_some_iff hp, not_conflicts_iff]
  constructor
  · rintro ⟨bindings, pieces, hfirst, text, htext, -⟩
    exact ⟨pieces, hfirst, text, htext⟩
  · rintro ⟨pieces, hfirst, text, htext⟩
    exact ⟨_, pieces, hfirst, text, htext, rfl⟩

theorem recovers_iff {template : String} (hp : parse template = .ok segments) :
    (∀ value : String, (∃ pieces, Splits segments pieces value.toList
        ∧ ¬Conflicts ((placeholders segments).zip pieces)) → bindings? template value ≠ none)
      ↔ Recovers segments := by
  constructor
  · intro h cs own first hown hc hfirst
    have hvalue := h (String.ofList cs)
    rw [bindings?_ne_none_iff hp, String.toList_ofList] at hvalue
    obtain ⟨pieces, hpieces, hno⟩ := hvalue ⟨own, hown, hc⟩
    rwa [hfirst.unique hpieces]
  · rintro h value ⟨own, hown, hc⟩
    obtain ⟨first, hfirst⟩ := hown.exists_isFirstSplit
    exact (bindings?_ne_none_iff hp).mpr ⟨first, hfirst, h _ _ _ hown hc hfirst⟩

theorem not_conflicts_iff_of_nodup (hn : (placeholders segments).Nodup)
    (h : Splits segments pieces cs) : ¬Conflicts ((placeholders segments).zip pieces)
      ↔ ∀ piece ∈ pieces, Percent.decode? piece ≠ none := by
  have hpieces : ((placeholders segments).zip pieces).map Prod.snd = pieces :=
    List.map_snd_zip (Nat.le_of_eq h.length_pieces)
  have hinj := List.inj_on_of_nodup_map (h.map_fst_zip.symm ▸ hn)
  constructor
  · intro hc piece hm hnone
    rw [← hpieces] at hm
    obtain ⟨x, hx, rfl⟩ := List.mem_map.mp hm
    exact hc (Or.inl ⟨x, hx, hnone⟩)
  · rintro hall (⟨x, hx, hnone⟩ | ⟨x, hx, y, hy, hname, hne⟩)
    · exact hall x.2 (hpieces ▸ List.mem_map_of_mem hx) hnone
    · rw [hinj hx hy hname] at hne
      exact hne rfl

/-- The end of a piece that the first way leaves goes to the next piece, behind the text between
them. -/
theorem exists_splits_shift {p w : List Char}
    (hs : ∀ sep ∈ gap? segments, '%' ∉ sep
      ∧ ∃ c rest, sep = c :: rest ∧ Hexadecimal.value? c = none)
    (h : Splits segments own cs) (hown : ∀ piece ∈ own, Percent.decode? piece ≠ none)
    (hpiece : Percent.decode? (p ++ w) ≠ none) (hline : '\n' ∉ w)
    (ho : Splits segments pieces (w ++ cs)) :
    Percent.decode? p ≠ none ∧ ∃ moved, Splits segments moved (w ++ cs)
      ∧ ∀ piece ∈ moved, Percent.decode? piece ≠ none := by
  by_cases hw : w = []
  · subst hw
    rw [List.append_nil] at hpiece
    exact ⟨hpiece, own, h, hown⟩
  · obtain ⟨gap, hg, hpre⟩ := exists_gap?_of_splits_append hw h ho
    obtain ⟨hgap, c, rest, rfl, hc⟩ := hs gap hg
    obtain ⟨z, next, tail, hz, rfl, hmoved⟩ := exists_splits_append hg h hw hline hpre
    obtain ⟨hnext, htail⟩ := List.forall_mem_cons.mp hown
    rw [Percent.decode?_ne_none_iff] at hpiece hnext
    obtain ⟨hp, hzn⟩ := Percent.isUtf8_of_shift hc hgap hz hw hpiece hnext
    rw [← Percent.decode?_ne_none_iff] at hp hzn
    exact ⟨hp, _, hmoved, List.forall_mem_cons.mpr ⟨hzn, htail⟩⟩

/-- If each text between neighbouring placeholders begins with a character that is no digit, then
the first way has texts where some way has. -/
theorem decode?_ne_none_of_isFirstSplit
    (hs : ∀ sep ∈ separators segments, '%' ∉ sep
      ∧ ∃ c rest, sep = c :: rest ∧ Hexadecimal.value? c = none)
    (h : Splits segments own cs) (hown : ∀ piece ∈ own, Percent.decode? piece ≠ none)
    (hf : IsFirstSplit segments first cs) : ∀ piece ∈ first, Percent.decode? piece ≠ none := by
  induction segments generalizing own first cs with
  | nil =>
    cases hf.splits with
    | nil => exact fun piece hm => absurd hm List.not_mem_nil
  | cons segment segments ih =>
    cases segment with
    | literal text =>
      obtain ⟨rest, rfl, hr⟩ := splits_literal_iff.mp h
      obtain ⟨rest', hcs, hf⟩ := hf.of_literal
      rw [List.append_cancel_left_eq] at hcs
      subst hcs
      exact ih hs hr hown hf
    | column name =>
      obtain ⟨p, tail, rest, rfl, hcs, hftail, hshort⟩ := hf.of_column
      obtain ⟨q, owntail, ownrest, rfl, rfl, -, hline, htail⟩ := splits_column_iff.mp h
      obtain ⟨hq, hothers⟩ := List.forall_mem_cons.mp hown
      obtain ⟨w, rfl⟩ : p <+: q := List.prefix_of_prefix_length_le ⟨rest, hcs.symm⟩
        (List.prefix_append q ownrest) (hshort q owntail h)
      rw [List.append_assoc, List.append_cancel_left_eq] at hcs
      subst hcs
      have hwline : '\n' ∉ w := fun hm => hline (List.mem_append_right p hm)
      obtain ⟨hp, moved, hmoved, hall⟩ := exists_splits_shift
        (fun sep hm => hs sep (List.mem_append_left _ (Option.mem_toList.mpr hm)))
        htail hothers hq hwline hftail.splits
      have hrest := ih (fun sep hm => hs sep (List.mem_append_right _ hm)) hmoved hall hftail
      exact List.forall_mem_cons.mpr ⟨hp, hrest⟩

theorem recovers_of_nodup (hn : (placeholders segments).Nodup)
    (hs : ∀ sep ∈ separators segments, '%' ∉ sep
      ∧ ∃ c rest, sep = c :: rest ∧ Hexadecimal.value? c = none) : Recovers segments := by
  intro cs own first h hc hf
  rw [not_conflicts_iff_of_nodup hn h] at hc
  rw [not_conflicts_iff_of_nodup hn hf.splits]
  exact decode?_ne_none_of_isFirstSplit hs h hc hf

end TriplesSql.Template
