import Mathlib.Data.List.Chain
import TriplesSql.Proofs.Template.Grammar

/-!
# Printed templates

Segments that were read are normal: a literal takes in all the text up to the next placeholder, and
names are such as can stand between braces. Normal segments are read back from what is printed for
them, so they are the segments of templates.
-/

namespace TriplesSql.Template

variable {segments : List Segment} {a : Segment} {p : Piece} {cs rest : List Char} {offset : Nat}

def Segment.isLiteral : Segment → Bool
  | .literal _ => true
  | .column _ => false

/-- Neither a literal nor a name is empty, and a name has no character that means something in a
template. -/
def Segment.IsSound : Segment → Prop
  | .literal text => text ≠ ""
  | .column name => name ≠ "" ∧ ∀ c ∈ name.toList, IsPlain c

/-- Segments are sound, and no two literals are neighbours. -/
structure IsNormal (segments : List Segment) : Prop where
  sound : ∀ a ∈ segments, a.IsSound
  apart : segments.IsChain fun a b => a.isLiteral = true → b.isLiteral = false

theorem isNormal_nil : IsNormal [] := by
  constructor
  · intro a ha
    exact absurd ha List.not_mem_nil
  · exact List.IsChain.nil

theorem isNormal_cons_iff : IsNormal (a :: segments) ↔ a.IsSound
    ∧ (a.isLiteral = true → ∀ b ∈ segments.head?, b.isLiteral = false) ∧ IsNormal segments := by
  constructor
  · intro h
    obtain ⟨hfirst, hrest⟩ := List.isChain_cons.mp h.apart
    obtain ⟨ha, hsound⟩ := List.forall_mem_cons.mp h.sound
    exact ⟨ha, fun hl b hb => hfirst b hb hl, hsound, hrest⟩
  · rintro ⟨ha, hfirst, hrest⟩
    constructor
    · exact List.forall_mem_cons.mpr ⟨ha, hrest.sound⟩
    · exact List.isChain_cons.mpr ⟨fun b hb hl => hfirst hl b hb, hrest.apart⟩

theorem ofList_cons_ne_empty (c : Char) (cs : List Char) : String.ofList (c :: cs) ≠ "" := by
  intro h
  exact List.cons_ne_nil c cs (String.ofList_eq_empty_iff.mp h)

theorem IsNormal.column {name : String} (h : IsNormal segments)
    (hname : (Segment.column name).IsSound) : IsNormal (.column name :: segments) := by
  have hfirst : (Segment.column name).isLiteral = true →
      ∀ b ∈ segments.head?, b.isLiteral = false := by
    intro hl
    cases hl
  exact isNormal_cons_iff.mpr ⟨hname, hfirst, h⟩

theorem IsNormal.addChar (h : IsNormal segments) (c : Char) : IsNormal (addChar c segments) := by
  cases segments with
  | nil =>
    have hfirst : ∀ b ∈ ([] : List Segment).head?, b.isLiteral = false := by
      intro b hb
      cases hb
    exact isNormal_cons_iff.mpr ⟨ofList_cons_ne_empty c [], fun _ => hfirst, h⟩
  | cons a segments =>
    cases a with
    | literal text =>
      obtain ⟨-, hfirst, hrest⟩ := isNormal_cons_iff.mp h
      exact isNormal_cons_iff.mpr ⟨ofList_cons_ne_empty c text.toList, hfirst, hrest⟩
    | column name =>
      have hfirst : ∀ b ∈ (Segment.column name :: segments).head?, b.isLiteral = false := by
        intro b hb
        obtain rfl := Option.some.inj hb
        rfl
      exact isNormal_cons_iff.mpr ⟨ofList_cons_ne_empty c [], fun _ => hfirst, h⟩

theorem IsNormal.prepend (h : IsNormal segments) (hs : Stands p rest) (hp : p.isSound = true) :
    IsNormal (p.prepend segments) := by
  cases hs with
  | char plain => exact h.addChar _
  | backslash lone => exact h.addChar '\\'
  | escape sameLine => exact h.addChar _
  | @placeholder name _ plain =>
    refine h.column ⟨?_, ?_⟩
    · cases name with
      | nil => cases hp
      | cons c name => exact ofList_cons_ne_empty c name
    · rw [String.toList_ofList]
      exact plain
  | brace isBrace closed => cases hp

theorem IsTemplate.isNormal (h : IsTemplate cs) (hread : readAt offset cs = .ok segments) :
    IsNormal segments := by
  refine h.pieceInduction (motive := fun cs => ∀ offset segments,
    readAt offset cs = .ok segments → IsNormal segments) ?_ ?_ offset segments hread
  · intro offset segments hread
    obtain rfl : [] = segments := Except.ok.inj hread
    exact isNormal_nil
  · intro p rest hstands hsound ih offset segments hread
    rw [hstands.readAt_eq hsound] at hread
    obtain ⟨tail, htail, rfl⟩ := map_eq_ok_iff.mp hread
    have hnormal := ih (offset + byteSize p.source) tail htail
    exact hnormal.prepend hstands hsound

theorem readAt_printChar (c : Char) (rest : List Char) (offset : Nat) :
    readAt offset (printChar c ++ rest)
      = (readAt (offset + byteSize (printChar c)) rest).map (addChar c) := by
  unfold printChar
  split
  · next hc =>
    have hline : c ≠ '\n' := by
      rintro rfl
      simp at hc
    exact (Stands.escape hline).readAt_eq rfl offset
  · next hc =>
    simp only [not_or] at hc
    exact (Stands.char hc).readAt_eq rfl offset

theorem readAt_flatMap_printChar (cs rest : List Char) (offset : Nat) :
    readAt offset (cs.flatMap printChar ++ rest)
      = (readAt (offset + byteSize (cs.flatMap printChar)) rest).map
        fun segments => cs.foldr addChar segments := by
  induction cs generalizing offset with
  | nil =>
    show readAt offset rest = (readAt offset rest).map id
    cases readAt offset rest with
    | error f => rfl
    | ok segments => rfl
  | cons c cs ih =>
    rw [List.flatMap_cons, List.append_assoc, readAt_printChar, ih, byteSize_append,
      Nat.add_assoc]
    cases readAt (offset + (byteSize (printChar c) + byteSize (cs.flatMap printChar))) rest with
    | error f => rfl
    | ok segments => rfl

theorem foldr_addChar (hne : cs ≠ []) (hfirst : ∀ b ∈ segments.head?, b.isLiteral = false) :
    cs.foldr addChar segments = .literal (String.ofList cs) :: segments := by
  induction cs with
  | nil => exact absurd rfl hne
  | cons c cs ih =>
    rw [List.foldr_cons]
    cases cs with
    | nil =>
      cases segments with
      | nil => rfl
      | cons b segments =>
        cases b with
        | literal text => cases hfirst (.literal text) rfl
        | column name => rfl
    | cons d cs =>
      rw [ih (List.cons_ne_nil d cs)]
      show [Segment.literal (String.ofList (c :: (String.ofList (d :: cs)).toList))] ++ segments = _
      rw [String.toList_ofList]
      rfl

theorem readAt_print (h : IsNormal segments) (offset : Nat) :
    readAt offset (segments.flatMap Segment.print) = .ok segments := by
  induction segments generalizing offset with
  | nil => rfl
  | cons a segments ih =>
    obtain ⟨ha, hfirst, hrest⟩ := isNormal_cons_iff.mp h
    rw [List.flatMap_cons]
    cases a with
    | literal text =>
      have hne : text.toList ≠ [] := by
        intro hnil
        exact ha (String.toList_eq_nil_iff.mp hnil)
      show readAt offset (text.toList.flatMap printChar ++ _) = _
      rw [readAt_flatMap_printChar, ih hrest]
      show Except.ok (text.toList.foldr addChar segments) = _
      rw [foldr_addChar hne (hfirst rfl), String.ofList_toList]
    | column name =>
      obtain ⟨hname, hplain⟩ := ha
      have hstands : Stands (.placeholder name.toList) (segments.flatMap Segment.print) :=
        .placeholder hplain
      have hsound : (Piece.placeholder name.toList).isSound = true := by
        simp [Piece.isSound, hname]
      show readAt offset ((Piece.placeholder name.toList).source ++ _) = _
      rw [hstands.readAt_eq hsound, ih hrest]
      show Except.ok (.column (String.ofList name.toList) :: segments) = _
      rw [String.ofList_toList]

/-- Segments are those of some template exactly if they are normal, and exactly then they are read
back from the template that is printed for them. -/
theorem parse_print_iff (segments : List Segment) :
    ((∃ template, parse template = .ok segments) ↔ IsNormal segments)
    ∧ (parse (print segments) = .ok segments ↔ IsNormal segments) := by
  have hnormal : ∀ template, parse template = .ok segments → IsNormal segments := by
    intro template h
    have ht := isTemplate_of_parse h
    obtain ⟨read, hread⟩ := ht.exists_readAt 0
    rw [parse_eq, hread] at h
    obtain rfl : read = segments := Except.ok.inj h
    exact ht.isNormal hread
  have hprint : IsNormal segments → parse (print segments) = .ok segments := by
    intro h
    rw [parse_eq, print, String.toList_ofList, readAt_print h]
    rfl
  constructor
  · constructor
    · rintro ⟨template, h⟩
      exact hnormal template h
    · intro h
      exact ⟨print segments, hprint h⟩
  · exact ⟨hnormal (print segments), hprint⟩

example : print [.literal "\\\n\x7b", .column "id"] = "\\\\\n\\\x7b\x7bid\x7d"
    ∧ parse "\\\\\n\\\x7b\x7bid\x7d" = .ok [.literal "\\\n\x7b", .column "id"] := by
  decide +kernel

end TriplesSql.Template
