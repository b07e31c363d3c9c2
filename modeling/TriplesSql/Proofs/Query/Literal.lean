import TriplesSql.Proofs.Text.Quoted

/-!
# String literals that are read back

A string literal stands between single quotes, with a letter in front of it in one dialect. The
database reads a written literal back as the value it was written for, and no text behind it becomes
part of it, if and only if backslashes do not escape in the dialect or the value has none.
-/

namespace TriplesSql.Dialect

open Select (closeString escapesInStrings)

variable {d : Dialect} {cs rest : List Char}

def stringBody? (d : Dialect) : List Char → Option (List Char)
  | '\'' :: cs => some cs
  | 'N' :: '\'' :: cs => if d = .tsql then some cs else none
  | _ => none

/-- The value of the string literal at the front of a text, and the rest behind it. -/
def readString? (d : Dialect) (cs : List Char) : Option (String × List Char) :=
  (d.stringBody? cs).bind fun body =>
    (closeString '\'' (escapesInStrings d) body).map fun (s, rest) => (String.ofList s, rest)

theorem readString?_eq_some_iff {s : String} :
    d.readString? cs = some (s, rest) ↔
      ∃ body, d.stringBody? cs = some body ∧
        closeString '\'' (escapesInStrings d) body = some (s.toList, rest) := by
  constructor
  · intro h
    obtain ⟨body, hbody, hread⟩ := Option.bind_eq_some_iff.mp h
    obtain ⟨⟨t, _⟩, hclose, heq⟩ := Option.map_eq_some_iff.mp hread
    obtain ⟨rfl, rfl⟩ := Prod.mk.inj heq
    exact ⟨body, hbody, by rw [hclose, String.toList_ofList]⟩
  · rintro ⟨body, hbody, hclose⟩
    simp [readString?, hbody, hclose]

theorem stringBody?_quoteString (d : Dialect) (s : String) (rest : List Char) :
    d.stringBody? ((d.quoteString s).toList ++ rest)
      = some (Text.double '\'' s.toList ++ '\'' :: rest) := by
  unfold quoteString
  split
  · next h => simp [unicodeString, plainString, Text.enclose, stringBody?, h.1]
  · simp [plainString, Text.enclose, stringBody?]

theorem escapesInStrings_iff : escapesInStrings d = true ↔ d = .mysql := by
  simp [escapesInStrings]

theorem readString?_quoteString {s : String} (hrest : rest.head? ≠ some '\'')
    (hs : d = .mysql → '\\' ∉ s.toList) :
    d.readString? ((d.quoteString s).toList ++ rest) = some (s, rest) := by
  have hclose := Select.closeString_double hrest fun h => hs (escapesInStrings_iff.mp h)
  exact readString?_eq_some_iff.mpr ⟨_, stringBody?_quoteString d s rest, hclose⟩

/-- Where a backslash escapes, a written value that has one is longer than what can be read in its
place. -/
theorem readString?_quoteString_iff (d : Dialect) (s : String) (rest : List Char)
    (hrest : rest.head? ≠ some '\'') :
    d.readString? ((d.quoteString s).toList ++ rest) = some (s, rest)
      ↔ (d = .mysql → '\\' ∉ s.toList) := by
  constructor
  · intro hread hd hmem
    obtain ⟨body, hbody, hclose⟩ := readString?_eq_some_iff.mp hread
    rw [stringBody?_quoteString] at hbody
    cases hbody
    have hlength := Select.length_of_closeString (by decide) hclose
    have hcount : 0 < s.toList.count '\\' := List.count_pos_iff.mpr hmem
    simp only [escapesInStrings_iff.mpr hd, if_true, List.length_append, List.length_cons]
      at hlength
    omega
  · exact readString?_quoteString hrest

theorem readString?_quoteString_unicode :
    (tsql.quoteString "d'été \\").toList = "N'd''été \\'".toList
      ∧ readString? .tsql ((tsql.quoteString "d'été \\").toList ++ " AND 1".toList)
          = some ("d'été \\", " AND 1".toList) :=
  ⟨by decide, (readString?_quoteString_iff .tsql _ _ (by decide)).mpr (by decide)⟩

/-- A backslash that is written as it stands escapes the closing quote. -/
theorem not_forall_readString?_quoteString :
    ¬ ∀ (d : Dialect) (s : String) (rest : List Char), rest.head? ≠ some '\'' →
      d.readString? ((d.quoteString s).toList ++ rest) = some (s, rest) := by
  intro h
  have hread := h .mysql "\\" [] (by decide)
  have hopen : readString? .mysql ((mysql.quoteString "\\").toList ++ []) = none := by decide
  rw [hopen] at hread
  cases hread

end TriplesSql.Dialect
