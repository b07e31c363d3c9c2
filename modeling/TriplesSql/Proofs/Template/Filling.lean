import TriplesSql.Proofs.Template.Splitting

/-!
# Filled templates

Segments with a piece in place of each placeholder make a text, and these pieces are one way to take
the text apart. Pieces of one character are the first way, since there are no shorter ones.
-/

namespace TriplesSql.Template

variable {piece : String → List Char} {segments : List Segment}

def fill (piece : String → List Char) : List Segment → List Char
  | [] => []
  | .literal text :: segments => text.toList ++ fill piece segments
  | .column name :: segments => piece name ++ fill piece segments

theorem fill_append (piece : String → List Char) (front segments : List Segment) :
    fill piece (front ++ segments) = fill piece front ++ fill piece segments := by
  induction front with
  | nil => rfl
  | cons segment front ih =>
    cases segment with
    | literal text => simp only [List.cons_append, fill, ih, List.append_assoc]
    | column name => simp only [List.cons_append, fill, ih, List.append_assoc]

theorem placeholders_append (front segments : List Segment) :
    placeholders (front ++ segments) = placeholders front ++ placeholders segments :=
  List.filterMap_append

theorem fill_congr {other : String → List Char}
    (h : ∀ name ∈ placeholders segments, piece name = other name) :
    fill piece segments = fill other segments := by
  induction segments with
  | nil => rfl
  | cons segment segments ih =>
    cases segment with
    | literal text => rw [fill, fill, ih h]
    | column name =>
      obtain ⟨hname, hrest⟩ := List.forall_mem_cons.mp h
      rw [fill, fill, hname, ih hrest]

theorem splits_fill (h : ∀ name ∈ placeholders segments, piece name ≠ [] ∧ '\n' ∉ piece name) :
    Splits segments ((placeholders segments).map piece) (fill piece segments) := by
  induction segments with
  | nil => exact .nil
  | cons segment segments ih =>
    cases segment with
    | literal text => exact .literal (ih h)
    | column name =>
      obtain ⟨⟨hne, hline⟩, hrest⟩ := List.forall_mem_cons.mp h
      exact .column hne hline (ih hrest)

/-- Pieces of one character make a first way, whatever comes behind them. -/
theorem IsFirstSplit.append_fill {pieces : List (List Char)} {cs : List Char}
    (h : IsFirstSplit segments pieces cs) (front : List Segment) (piece : String → List Char)
    (hone : ∀ name ∈ placeholders front, (piece name).length = 1 ∧ '\n' ∉ piece name) :
    IsFirstSplit (front ++ segments) ((placeholders front).map piece ++ pieces)
      (fill piece front ++ cs) := by
  have hsplits : Splits front ((placeholders front).map piece) (fill piece front) :=
    splits_fill fun name hm =>
      ⟨List.ne_nil_of_length_pos (Nat.lt_of_lt_of_eq Nat.one_pos (hone name hm).1.symm),
        (hone name hm).2⟩
  refine h.append_short hsplits fun short hm => ?_
  obtain ⟨name, hname, rfl⟩ := List.mem_map.mp hm
  exact Nat.le_of_eq (hone name hname).1

theorem isFirstSplit_fill
    (hone : ∀ name ∈ placeholders segments, (piece name).length = 1 ∧ '\n' ∉ piece name) :
    IsFirstSplit segments ((placeholders segments).map piece) (fill piece segments) := by
  have hend : IsFirstSplit [] [] [] := ⟨.nil, fun other _ => not_earlier_nil other⟩
  have hall := hend.append_fill segments piece hone
  rwa [List.append_nil, List.append_nil, List.append_nil] at hall

end TriplesSql.Template
