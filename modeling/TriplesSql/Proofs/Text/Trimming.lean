import Mathlib.Data.List.DropRight
import Mathlib.Data.List.TakeWhile
import TriplesSql.Text.Quoted

/-!
# Trimmed texts and the names they spell

A name is spelled between double quotes, with each of its quotes doubled, or bare, if it has neither
quotes nor points and no blanks at its ends. Blanks may stand around both spellings, and every
spelling is read as the name it spells.
-/

namespace TriplesSql.Text

variable {p : Char → Bool} {cs front after : List Char}

theorem dropEndWhile_append_of_pos (h : ∀ c ∈ after, p c = true) :
    dropEndWhile p (cs ++ after) = dropEndWhile p cs := by
  have hreverse : ∀ c ∈ after.reverse, p c = true := fun c hc => h c (List.mem_reverse.mp hc)
  rw [dropEndWhile, List.reverse_append, List.dropWhile_append_of_pos hreverse, dropEndWhile]

theorem dropEndWhile_eq_self (h : ∀ c ∈ cs.getLast?, p c = false) : dropEndWhile p cs = cs := by
  rw [← List.head?_reverse] at h
  rw [dropEndWhile]
  cases hcs : cs.reverse with
  | nil =>
    rw [List.reverse_eq_nil_iff.mp hcs]
    rfl
  | cons c rest =>
    have hc : p c = false := h c (by rw [hcs]; rfl)
    rw [List.dropWhile_cons_of_neg (by simp [hc]), ← hcs, List.reverse_reverse]

theorem dropEndWhile_append (hfront : ∀ c ∈ front.getLast?, p c = false)
    (hafter : ∀ c ∈ after, p c = true) : dropEndWhile p (front ++ after) = front := by
  rw [dropEndWhile_append_of_pos hafter, dropEndWhile_eq_self hfront]

theorem dropEndWhile_eq_rdropWhile (p : Char → Bool) (cs : List Char) :
    dropEndWhile p cs = cs.rdropWhile p := rfl

theorem exists_dropEndWhile (p : Char → Bool) (cs : List Char) :
    ∃ after, cs = dropEndWhile p cs ++ after ∧ ∀ c ∈ after, p c = true :=
  ⟨cs.rtakeWhile p, List.rdropWhile_append_rtakeWhile.symm, fun _ => List.mem_rtakeWhile_imp⟩

theorem getLast?_dropEndWhile (p : Char → Bool) (cs : List Char) :
    ∀ c ∈ (dropEndWhile p cs).getLast?, p c = false := by
  intro c hc
  obtain ⟨hne, rfl⟩ := List.mem_getLast?_eq_getLast hc
  have hlast := List.rdropWhile_last_not p cs hne
  exact Bool.eq_false_iff.mpr hlast

theorem trim_append {before name after : String} (hbefore : ∀ c ∈ before.toList, isBlank c = true)
    (hafter : ∀ c ∈ after.toList, isBlank c = true)
    (hhead : ∀ c ∈ name.toList.head?, isBlank c = false)
    (hlast : ∀ c ∈ name.toList.getLast?, isBlank c = false) :
    trim (before ++ name ++ after) = name := by
  have hfront : (before ++ name ++ after).toList.dropWhile isBlank
      = (name.toList ++ after.toList).dropWhile isBlank := by
    rw [String.toList_append, String.toList_append, List.append_assoc,
      List.dropWhile_append_of_pos hbefore]
  have hends : dropEndWhile isBlank ((name.toList ++ after.toList).dropWhile isBlank)
      = name.toList := by
    cases hname : name.toList with
    | nil =>
      rw [List.nil_append, List.dropWhile_eq_nil_iff.mpr hafter, dropEndWhile_nil]
    | cons c rest =>
      rw [hname] at hhead hlast
      have hc : isBlank c = false := hhead c rfl
      rw [List.cons_append, List.dropWhile_cons_of_neg (by simp [hc]), ← List.cons_append,
        dropEndWhile_append hlast hafter]
  rw [trim, hfront, hends, String.ofList_toList]

theorem insideQuotes?_enclosed (cs : List Char) :
    insideQuotes? ('"' :: cs ++ ['"']) = some cs := by
  simp [insideQuotes?]

theorem insideQuotes?_of_not_mem (h : '"' ∉ cs) : insideQuotes? cs = none := by
  unfold insideQuotes?
  split
  · exact absurd List.mem_cons_self h
  · rfl

/-- A name that can be told without delimiters. -/
structure IsBare (name : String) : Prop where
  quote : '"' ∉ name.toList
  point : '.' ∉ name.toList
  head : ∀ c ∈ name.toList.head?, isBlank c = false
  last : ∀ c ∈ name.toList.getLast?, isBlank c = false

/-- The ways to write a name. -/
inductive Spells : String → String → Prop where
  | delimited (before name after : String)
    (hbefore : ∀ c ∈ before.toList, isBlank c = true)
    (hafter : ∀ c ∈ after.toList, isBlank c = true) :
    Spells (before ++ enclose '"' '"' name ++ after) name
  | bare (before name after : String) (hname : IsBare name)
    (hbefore : ∀ c ∈ before.toList, isBlank c = true)
    (hafter : ∀ c ∈ after.toList, isBlank c = true) :
    Spells (before ++ name ++ after) name

theorem spells_enclose (name : String) : Spells (enclose '"' '"' name) name := by
  have hnone : ∀ c ∈ "".toList, isBlank c = true := by simp
  have h := Spells.delimited "" name "" hnone hnone
  rwa [String.empty_append, String.append_empty] at h

theorem unquote_eq {text name : String} (h : Spells text name) : unquote text = name := by
  cases h with
  | delimited before _ after hbefore hafter =>
    have hquote : isBlank '"' = false := by decide
    have htext : (enclose '"' '"' name).toList = '"' :: double '"' name.toList ++ ['"'] := by
      rw [enclose, String.toList_ofList]
    have hends : trim (before ++ enclose '"' '"' name ++ after) = enclose '"' '"' name := by
      refine trim_append hbefore hafter ?_ ?_
      · rw [htext]
        simp [hquote]
      · rw [htext, List.getLast?_concat]
        simp [hquote]
    rw [unquote, hends, htext]
    simp only [insideQuotes?_enclosed, collapse_double, String.ofList_toList]
  | bare _ _ _ hname hbefore hafter =>
    have hends := trim_append hbefore hafter hname.head hname.last
    rw [unquote, hends]
    simp only [insideQuotes?_of_not_mem hname.quote]

end TriplesSql.Text
