import TriplesSql.Proofs.Template.Binding
import TriplesSql.Proofs.Template.Filling
import TriplesSql.Proofs.Text.Percent

/-!
# Rendering undone

The encoded values of a row are one way to take its rendering apart, and the only way whose pieces
decode to these values. Whether they are the first way depends on the texts between neighbouring
placeholders: those that no end of an encoded value runs into are safe.
-/

namespace TriplesSql.Template

open Text

variable {row : String → String} {segments : List Segment} {pieces : List (List Char)}
  {cs : List Char}

/-- The encoded values that placeholders are filled with. -/
def rowPieces (row : String → String) (segments : List Segment) : List (List Char) :=
  (placeholders segments).map fun name => (Percent.encode (row name)).toList

theorem toList_render_literal (row : String → String) (text : String) (segments : List Segment) :
    (render row (.literal text :: segments)).toList
      = text.toList ++ (render row segments).toList := by
  simp [render, Segment.render]

theorem toList_render_column (row : String → String) (name : String) (segments : List Segment) :
    (render row (.column name :: segments)).toList
      = (Percent.encode (row name)).toList ++ (render row segments).toList := by
  simp [render, Segment.render]

theorem rowPieces_column (row : String → String) (name : String) (segments : List Segment) :
    rowPieces row (.column name :: segments)
      = (Percent.encode (row name)).toList :: rowPieces row segments := rfl

theorem toList_render (row : String → String) (segments : List Segment) :
    (render row segments).toList
      = fill (fun name => (Percent.encode (row name)).toList) segments := by
  induction segments with
  | nil => rfl
  | cons segment segments ih =>
    cases segment with
    | literal text => rw [toList_render_literal, ih, fill]
    | column name => rw [toList_render_column, ih, fill]

theorem splits_render (h : ∀ name ∈ placeholders segments, row name ≠ "") :
    Splits segments (rowPieces row segments) (render row segments).toList := by
  rw [toList_render]
  exact splits_fill fun name hm =>
    ⟨Percent.encode_ne_nil (h name hm), Percent.newline_not_mem_encode (row name)⟩

theorem carries_rowPieces (row : String → String) (segments : List Segment) :
    Carries row ((placeholders segments).zip (rowPieces row segments)) := by
  intro x hx
  rw [rowPieces, ← List.map_prod_left_eq_zip] at hx
  obtain ⟨name, -, rfl⟩ := List.mem_map.mp hx
  simp only [Percent.decode?_encode]

/-- Behind two digits too many, pieces that decode to the values of a row do not end where its
rendering ends. -/
theorem not_displaced (h : Splits segments pieces cs)
    (hc : Carries row ((placeholders segments).zip pieces)) :
    ¬Percent.Displaced (render row segments).toList cs := by
  induction h with
  | nil => rintro (hd | hd) <;> cases hd
  | literal rest ih =>
    intro hd
    rw [toList_render_literal] at hd
    exact ih hc hd.of_append
  | @column name segments piece pieces cs nonempty oneLine rest ih =>
    intro hd
    have hpiece := Percent.decode?_eq_some_iff.mp (hc (name, piece) List.mem_cons_self)
    rw [toList_render_column, Percent.toList_encode, ← hpiece] at hd
    exact ih (fun x hx => hc x (List.mem_cons_of_mem _ hx)) hd.of_bytes

theorem eq_rowPieces (h : Splits segments pieces (render row segments).toList)
    (hc : Carries row ((placeholders segments).zip pieces)) : pieces = rowPieces row segments := by
  induction segments generalizing pieces with
  | nil =>
    cases h with
    | nil => rfl
  | cons segment segments ih =>
    cases segment with
    | literal text =>
      obtain ⟨rest, hcs, h⟩ := splits_literal_iff.mp h
      rw [toList_render_literal, List.append_cancel_left_eq] at hcs
      subst hcs
      exact ih h hc
    | column name =>
      obtain ⟨piece, tail, rest, rfl, hcs, -, -, h⟩ := splits_column_iff.mp h
      have hpiece := Percent.decode?_eq_some_iff.mp (hc (name, piece) List.mem_cons_self)
      have htail : Carries row ((placeholders segments).zip tail) :=
        fun x hx => hc x (List.mem_cons_of_mem _ hx)
      rw [toList_render_column, Percent.toList_encode] at hcs
      rw [rowPieces_column, Percent.toList_encode]
      rcases List.append_eq_append_iff.mp hcs with ⟨w, hw, hrest⟩ | ⟨w, hw, hrest⟩
      · -- the piece goes on behind the encoded value, with nothing that has bytes
        have hbytes := Percent.bytes_flatMap_append (Percent.utf8 (row name)) w
        rw [← hw, hpiece] at hbytes
        cases w with
        | nil =>
          rw [List.append_nil] at hw
          rw [List.nil_append] at hrest
          subst hw hrest
          rw [ih h htail]
        | cons c w =>
          exact absurd (List.self_eq_append_right.mp hbytes) (Percent.bytes_ne_nil c w)
      · -- the piece is cut off, so the rest would have two digits too many in front
        cases w with
        | nil =>
          rw [List.append_nil] at hw
          rw [List.nil_append] at hrest
          subst hrest
          rw [hw, ih h htail]
        | cons c w =>
          have hd := Percent.displaced_of_cut hw (List.cons_ne_nil c w) hpiece
          rw [hrest] at h
          exact absurd (hd.append _) (not_displaced h htail)

theorem bindings?_of_isFirstSplit {template : String} (hp : parse template = .ok segments)
    (h : IsFirstSplit segments (rowPieces row segments) (render row segments).toList) :
    bindings? template (render row segments) = some (bindingsOf row (placeholders segments)) := by
  have hnames : ((placeholders segments).zip (rowPieces row segments)).map Prod.fst
      = placeholders segments :=
    List.map_fst_zip (Nat.le_of_eq (List.length_map _).symm)
  have hbound := bindPieces_bindingsOf (carries_rowPieces row segments) []
  rw [hnames, List.nil_append] at hbound
  rw [bindings?_of_parse hp, split?_eq_some_iff.mpr h]
  exact hbound

theorem isFirstSplit_of_bindings? {template : String} (hp : parse template = .ok segments)
    {bindings : Bindings} (h : bindings? template (render row segments) = some bindings)
    (hrow : ∀ x ∈ bindings, row x.1 = x.2) :
    IsFirstSplit segments (rowPieces row segments) (render row segments).toList := by
  rw [bindings?_of_parse hp] at h
  obtain ⟨pieces, hs, hb⟩ := Option.bind_eq_some_iff.mp h
  have hfirst := split?_eq_some_iff.mp hs
  have hcarries : Carries row ((placeholders segments).zip pieces) := by
    intro x hx
    obtain ⟨v, hv, hl⟩ := (lookup_of_bindPieces hb).2 x hx
    obtain ⟨before, after, heq, -⟩ := List.lookup_eq_some_iff.mp hl
    have hmem : (x.1, v) ∈ bindings := heq ▸ List.mem_append_right _ List.mem_cons_self
    rw [hv, hrow _ hmem]
  rwa [eq_rowPieces hfirst.splits hcarries] at hfirst

end TriplesSql.Template
