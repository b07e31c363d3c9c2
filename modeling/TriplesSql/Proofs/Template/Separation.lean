import TriplesSql.Proofs.Template.Rendering

/-!
# Separated placeholders

The own pieces of a row are taken from its rendering whatever the row is exactly if each text
between neighbouring placeholders is safe: no end of an encoded value in front of it makes it stand
earlier in the text.
-/

namespace TriplesSql.Template

open Text

variable {row : String → String} {segments : List Segment} {pieces : List (List Char)}
  {cs : List Char}

/-- The literal text in front of the next placeholder, if there is one. -/
def gap? : List Segment → Option (List Char)
  | [] => none
  | .literal text :: segments => (gap? segments).map (text.toList ++ ·)
  | .column _ :: _ => some []

def separators : List Segment → List (List Char)
  | [] => []
  | .literal _ :: segments => separators segments
  | .column _ :: segments => (gap? segments).toList ++ separators segments

/-- Behind no encoded value the text stands earlier than at the end of the value. -/
def IsSafe (sep : List Char) : Prop :=
  ∀ (v : String) (p w : List Char), (Percent.encode v).toList = p ++ w → p ≠ [] → w ≠ [] →
    ¬sep <+: w ++ sep

theorem isSafe_of_mem {sep : List Char} {c : Char} (hc : c ∈ sep)
    (hu : Percent.isUnreserved c = false) (hp : c ≠ '%') : IsSafe sep := by
  intro v p w he _ hw hpre
  have hmem : c ∈ (Percent.encode v).toList := by
    rw [he]
    exact List.mem_append_right p (mem_of_prefix_append hw hpre hc)
  rcases Percent.mem_encode hmem with h | h
  · rw [hu] at h
    cases h
  · exact hp h

theorem prefix_of_gap? {gap : List Char} (hg : gap? segments = some gap)
    (h : Splits segments pieces cs) : gap <+: cs := by
  induction segments generalizing gap cs with
  | nil => cases hg
  | cons segment segments ih =>
    cases segment with
    | literal text =>
      obtain ⟨gap', hg', rfl⟩ := Option.map_eq_some_iff.mp hg
      obtain ⟨rest, rfl, hr⟩ := splits_literal_iff.mp h
      exact (List.prefix_append_right_inj _).mpr (ih hg' hr)
    | column name =>
      obtain rfl : [] = gap := Option.some.inj hg
      exact List.nil_prefix

theorem eq_of_gap?_eq_none {other : List (List Char)} {cs' : List Char} (hg : gap? segments = none)
    (h : Splits segments pieces cs) (ho : Splits segments other cs') : cs = cs' := by
  induction segments generalizing cs cs' with
  | nil =>
    cases h with
    | nil =>
      cases ho with
      | nil => rfl
  | cons segment segments ih =>
    cases segment with
    | literal text =>
      obtain ⟨rest, rfl, hr⟩ := splits_literal_iff.mp h
      obtain ⟨rest', rfl, hr'⟩ := splits_literal_iff.mp ho
      rw [ih (Option.map_eq_none_iff.mp hg) hr hr']
    | column name => cases hg

theorem exists_gap?_of_splits_append {w : List Char} {other : List (List Char)} (hw : w ≠ [])
    (h : Splits segments pieces cs) (ho : Splits segments other (w ++ cs)) :
    ∃ gap, gap? segments = some gap ∧ gap <+: w ++ gap := by
  cases hg : gap? segments with
  | none =>
    have heq := eq_of_gap?_eq_none hg h ho
    exact absurd (List.self_eq_append_left.mp heq) hw
  | some gap =>
    obtain ⟨rest, rfl⟩ := prefix_of_gap? hg h
    have hpre := prefix_of_gap? hg ho
    rw [← List.append_assoc] at hpre
    refine ⟨gap, rfl, List.prefix_of_prefix_length_le hpre (List.prefix_append _ _) ?_⟩
    rw [List.length_append]
    omega

/-- Nothing is taken apart with an end of an encoded value in front, if the next text is safe. -/
theorem not_splits_append (hs : ∀ sep ∈ (gap? segments).toList, IsSafe sep) {own : List (List Char)}
    (h : Splits segments own cs) {v : String} {p w : List Char}
    (he : (Percent.encode v).toList = p ++ w) (hp : p ≠ []) (hw : w ≠ []) :
    ¬Splits segments pieces (w ++ cs) := by
  intro ho
  obtain ⟨gap, hg, hpre⟩ := exists_gap?_of_splits_append hw h ho
  exact hs gap (Option.mem_toList.mpr hg) v p w he hp hw hpre

theorem isFirstSplit_rowPieces (hs : ∀ sep ∈ separators segments, IsSafe sep)
    (hne : ∀ name ∈ placeholders segments, row name ≠ "") :
    IsFirstSplit segments (rowPieces row segments) (render row segments).toList := by
  refine ⟨splits_render hne, ?_⟩
  induction segments with
  | nil => exact fun other _ => not_earlier_nil other
  | cons segment segments ih =>
    intro other ho
    cases segment with
    | literal text =>
      obtain ⟨rest, hcs, ho⟩ := splits_literal_iff.mp ho
      rw [toList_render_literal, List.append_cancel_left_eq] at hcs
      subst hcs
      exact ih hs hne other ho
    | column name =>
      have hne' : ∀ other ∈ placeholders segments, row other ≠ "" :=
        fun other hm => hne other (List.mem_cons_of_mem name hm)
      obtain ⟨piece, tail, rest, rfl, hcs, hpiece, -, ho⟩ := splits_column_iff.mp ho
      rw [toList_render_column] at hcs
      rw [rowPieces_column, earlier_cons_iff]
      rintro (hlt | ⟨heq, hearlier⟩)
      · rcases List.append_eq_append_iff.mp hcs with ⟨w, hw, -⟩ | ⟨w, hw, hrest⟩
        · rw [hw, List.length_append] at hlt
          omega
        · -- a shorter piece leaves an end of the encoded value in front of the rest
          have hne : w ≠ [] := by
            rintro rfl
            rw [hw, List.append_nil] at hlt
            omega
          rw [hrest] at ho
          exact not_splits_append (fun sep hm => hs sep (List.mem_append_left _ hm))
            (splits_render hne') hw hpiece hne ho
      · obtain ⟨-, rfl⟩ := List.append_inj hcs heq.symm
        exact ih (fun sep hm => hs sep (List.mem_append_right _ hm)) hne' tail ho hearlier

theorem ne_empty_of_cut {v : String} {p w : List Char} (he : (Percent.encode v).toList = p ++ w)
    (hp : p ≠ []) : v ≠ "" := by
  rintro rfl
  exact hp (List.append_eq_nil_iff.mp he.symm).1

theorem exists_splits_insert {gap z : List Char} (hg : gap? segments = some gap) (hz : '\n' ∉ z)
    (h : Splits segments pieces (gap ++ cs)) :
    ∃ piece tail, pieces = piece :: tail
      ∧ Splits segments ((z ++ piece) :: tail) (gap ++ (z ++ cs)) := by
  induction segments generalizing gap with
  | nil => cases hg
  | cons segment segments ih =>
    cases segment with
    | literal text =>
      obtain ⟨gap', hg', rfl⟩ := Option.map_eq_some_iff.mp hg
      obtain ⟨rest, hcs, hr⟩ := splits_literal_iff.mp h
      rw [List.append_assoc, List.append_cancel_left_eq] at hcs
      subst hcs
      obtain ⟨piece, tail, hpieces, ho⟩ := ih hg' hr
      rw [List.append_assoc]
      exact ⟨piece, tail, hpieces, .literal ho⟩
    | column name =>
      obtain rfl : [] = gap := Option.some.inj hg
      obtain ⟨piece, tail, rest, hpieces, hcs, hne, hline, hr⟩ := splits_column_iff.mp h
      rw [List.nil_append] at hcs
      rw [hcs, List.nil_append, ← List.append_assoc]
      refine ⟨piece, tail, hpieces, .column ?_ ?_ hr⟩
      · exact List.append_ne_nil_of_right_ne_nil z hne
      · rw [List.mem_append, not_or]
        exact ⟨hz, hline⟩

/-- If the next text stands at the front of an end of a value and itself, then what follows can be
taken apart with this end in front: the next piece takes up what the text is moved by. -/
theorem exists_splits_append {gap w : List Char} (hg : gap? segments = some gap)
    (h : Splits segments pieces cs) (hw : w ≠ []) (hline : '\n' ∉ w) (hpre : gap <+: w ++ gap) :
    ∃ z piece tail, w ++ gap = gap ++ z ∧ pieces = piece :: tail
      ∧ Splits segments ((z ++ piece) :: tail) (w ++ cs) := by
  obtain ⟨rest, rfl⟩ := prefix_of_gap? hg h
  obtain ⟨z, hz⟩ := hpre
  have hzline : '\n' ∉ z := by
    intro hm
    have hmem : '\n' ∈ w ++ gap := hz ▸ List.mem_append_right gap hm
    rcases List.mem_append.mp hmem with hm | hm
    · exact hline hm
    · exact hline (mem_of_prefix_append hw ⟨z, hz⟩ hm)
  obtain ⟨piece, tail, hpieces, ho⟩ := exists_splits_insert hg hzline h
  rw [← List.append_assoc, hz, List.append_assoc] at ho
  exact ⟨z, piece, tail, hz.symm, hpieces, ho⟩

/-- If a text stands earlier behind an encoded value, then the row that has this value everywhere
gives a rendering that can be taken apart earlier. -/
theorem exists_earlier {sep : List Char} (hsep : sep ∈ separators segments) {v : String}
    {p w : List Char} (he : (Percent.encode v).toList = p ++ w) (hp : p ≠ []) (hw : w ≠ [])
    (hpre : sep <+: w ++ sep) :
    ∃ other, Splits segments other (render (fun _ => v) segments).toList
      ∧ Earlier other (rowPieces (fun _ => v) segments) := by
  have hline : '\n' ∉ p ++ w := he ▸ Percent.newline_not_mem_encode v
  rw [List.mem_append, not_or] at hline
  induction segments with
  | nil => cases hsep
  | cons segment segments ih =>
    cases segment with
    | literal text =>
      obtain ⟨other, ho, hearlier⟩ := ih hsep
      rw [toList_render_literal]
      exact ⟨other, .literal ho, hearlier⟩
    | column name =>
      rw [toList_render_column, rowPieces_column, he]
      rcases List.mem_append.mp hsep with hgap | hsep
      · have hown : Splits segments (rowPieces (fun _ => v) segments)
            (render (fun _ => v) segments).toList := splits_render fun _ _ => ne_empty_of_cut he hp
        obtain ⟨z, piece, tail, -, -, ho⟩ :=
          exists_splits_append (Option.mem_toList.mp hgap) hown hw hline.2 hpre
        rw [List.append_assoc]
        refine ⟨p :: (z ++ piece) :: tail, .column hp hline.1 ho,
          earlier_cons_iff.mpr (Or.inl ?_)⟩
        rw [List.length_append]
        exact Nat.lt_add_of_pos_right (List.length_pos_iff.mpr hw)
      · obtain ⟨other, ho, hearlier⟩ := ih hsep
        refine ⟨(p ++ w) :: other, .column (List.append_ne_nil_of_left_ne_nil hp w) ?_ ho,
          earlier_cons_iff.mpr (Or.inr ⟨rfl, hearlier⟩)⟩
        rw [List.mem_append, not_or]
        exact hline

theorem isSafe_of_isFirstSplit
    (h : ∀ v ≠ "", IsFirstSplit segments (rowPieces (fun _ => v) segments)
      (render (fun _ => v) segments).toList) :
    ∀ sep ∈ separators segments, IsSafe sep := by
  intro sep hsep v p w he hp hw hpre
  obtain ⟨other, ho, hearlier⟩ := exists_earlier hsep he hp hw hpre
  exact (h v (ne_empty_of_cut he hp)).least other ho hearlier

/-- Matching takes rendering back if each text between neighbouring placeholders begins with a
character that no encoded value has. -/
theorem bindings?_render {template : String} (hp : parse template = .ok segments)
    (hs : ∀ sep ∈ separators segments, ∃ c rest, sep = c :: rest
      ∧ Percent.isUnreserved c = false ∧ c ≠ '%')
    (hne : ∀ name ∈ placeholders segments, row name ≠ "") :
    bindings? template (render row segments)
      = some ((placeholders segments).eraseDups.map fun name => (name, row name)) := by
  have hsafe : ∀ sep ∈ separators segments, IsSafe sep := by
    intro sep hsep
    obtain ⟨c, rest, rfl, hu, hc⟩ := hs sep hsep
    exact isSafe_of_mem List.mem_cons_self hu hc
  exact bindings?_of_isFirstSplit hp (isFirstSplit_rowPieces hsafe hne)

def staffTemplate : String := "http://ex.org/\x7bdept\x7d/\x7bid\x7d"

def staffSegments : List Segment :=
  [.literal "http://ex.org/", .column "dept", .literal "/", .column "id"]

def staffRow (name : String) : String := if name = "dept" then "R&D" else "7 é"

theorem staffRow_ne_empty (name : String) : staffRow name ≠ "" := by
  unfold staffRow
  split <;> decide

theorem parse_staffTemplate : parse staffTemplate = .ok staffSegments := by
  decide +kernel

theorem bindings?_render_staff :
    bindings? staffTemplate (render staffRow staffSegments)
      = some [("dept", "R&D"), ("id", "7 é")] := by
  refine bindings?_render parse_staffTemplate (fun sep hsep => ?_) fun name _ =>
    staffRow_ne_empty name
  have hslash : sep = ['/'] := List.mem_singleton.mp hsep
  exact ⟨'/', [], hslash, by decide, by decide⟩

end TriplesSql.Template
