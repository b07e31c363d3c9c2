import TriplesSql.Proofs.Template.Grammar
import TriplesSql.Proofs.Template.Outcome

/-!
# Columns of a template

The names of a template's placeholders are found in three ways: among its pieces, in the segments
that are read from it, and in the bindings of a value. Where the template can be read they are the
same names in the same order.
-/

namespace TriplesSql.Template

variable {offset : Nat}

theorem placeholders_addChar (c : Char) (segments : List Segment) :
    placeholders (addChar c segments) = placeholders segments := by
  unfold addChar
  split <;> rfl

def Piece.name? : Piece → Option String
  | .placeholder (c :: cs) => some (String.ofList (c :: cs))
  | _ => none

theorem placeholders_of_segmentsAt {ps : List Piece} {segments : List Segment}
    (h : segmentsAt offset ps = .ok segments) :
    placeholders segments = ps.filterMap Piece.name? := by
  induction ps generalizing offset segments with
  | nil =>
    obtain rfl := Except.ok.inj h
    rfl
  | cons p ps ih =>
    cases p with
    | char c =>
      obtain ⟨rest, hrest, rfl⟩ := map_eq_ok_iff.mp h
      rw [placeholders_addChar]
      exact ih hrest
    | escape c =>
      obtain ⟨rest, hrest, rfl⟩ := map_eq_ok_iff.mp h
      rw [placeholders_addChar]
      exact ih hrest
    | placeholder name =>
      cases name with
      | nil => cases h
      | cons c name =>
        obtain ⟨rest, hrest, rfl⟩ := map_eq_ok_iff.mp h
        exact congrArg (String.ofList (c :: name) :: ·) (ih hrest)
    | brace c => cases h

theorem columns_of_parse {template : String} {segments : List Segment}
    (h : parse template = .ok segments) :
    columns template = (placeholders segments).eraseDups := by
  have hread : segmentsAt 0 (pieces template) = .ok segments := by
    unfold parse at h
    cases hs : segmentsAt 0 (pieces template) with
    | error f =>
      rw [hs] at h
      cases h
    | ok found =>
      rw [hs] at h
      obtain rfl : found = segments := Except.ok.inj h
      rfl
  rw [placeholders_of_segmentsAt hread]
  rfl

theorem map_fst_of_bindings? {template value : String} {bindings : Bindings}
    (h : bindings? template value = some bindings) : bindings.map Prod.fst = columns template := by
  obtain ⟨segments, hp⟩ := parse_of_bindings? h
  obtain ⟨pieces, -, text, -, rfl⟩ := (bindings?_eq_some_iff hp).mp h
  rw [columns_of_parse hp, bindingsOf, List.map_map]
  exact List.map_id _

/-- The columns of a template that can be read are the names of its placeholders, each once, in
order of first appearance, and every value that has bindings binds just these, in this order. -/
theorem columns_agree {template : String} {segments : List Segment}
    (h : parse template = .ok segments) :
    columns template = (placeholders segments).eraseDups
    ∧ ∀ value bindings, bindings? template value = some bindings →
      bindings.map Prod.fst = columns template :=
  ⟨columns_of_parse h, fun _ _ hb => map_fst_of_bindings? hb⟩

def visitTemplate : String := "\x7bday\x7d/\\\x7b\x7broom\x7d\\\x7d/\x7bday\x7d"

theorem columns_agree_visit :
    parse visitTemplate = .ok [.column "day", .literal "/\x7b", .column "room", .literal "\x7d/",
      .column "day"]
    ∧ columns visitTemplate = ["day", "room"]
    ∧ bindings? visitTemplate "7/\x7b12\x7d/7" = some [("day", "7"), ("room", "12")]
    ∧ [("day", "7"), ("room", "12")].map Prod.fst = columns visitTemplate := by
  have hp : parse visitTemplate = .ok [.column "day", .literal "/\x7b", .column "room",
      .literal "\x7d/", .column "day"] := by decide +kernel
  have hb : bindings? visitTemplate "7/\x7b12\x7d/7" = some [("day", "7"), ("room", "12")] := by
    decide +kernel
  obtain ⟨hcolumns, hall⟩ := columns_agree hp
  have hnames : (placeholders [.column "day", .literal "/\x7b", .column "room", .literal "\x7d/",
      .column "day"]).eraseDups = ["day", "room"] := by decide
  exact ⟨hp, hcolumns.trans hnames, hb, hall _ _ hb⟩

end TriplesSql.Template
