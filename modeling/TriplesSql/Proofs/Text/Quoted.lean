import Mathlib.Data.List.Basic
import TriplesSql.Select.Lexer

/-!
# Quoted text that is read back

Reading up to a closing delimiter takes back what was written with each delimiter doubled, if no
delimiter follows and no character is taken for an escape. Where backslashes escape, what is read
never has as many characters as it was written with once it has a backslash.
-/

namespace TriplesSql.Select

open Text

variable {q : Char} {escapes : Bool}

theorem closeString_close {rest : List Char} (h : rest.head? ≠ some q) :
    closeString q escapes (q :: rest) = some ([], rest) := by
  cases rest with
  | nil => simp [closeString]
  | cons c rest =>
    have hc : c ≠ q := fun hc => h (congrArg some hc)
    simp [closeString, hc]

theorem closeString_doubled (cs : List Char) :
    closeString q escapes (q :: q :: cs)
      = (closeString q escapes cs).map fun (s, rest) => (q :: s, rest) := by
  simp [closeString]

theorem closeString_plain {c : Char} (hq : c ≠ q) (he : escapes = true → c ≠ '\\')
    (cs : List Char) :
    closeString q escapes (c :: cs)
      = (closeString q escapes cs).map fun (s, rest) => (c :: s, rest) := by
  cases cs with
  | nil => simp [closeString, hq]
  | cons d cs =>
    have hesc : ¬(escapes = true ∧ c = '\\') := fun h => he h.1 h.2
    rw [closeString, if_neg hq, if_neg hesc]

theorem closeString_double {cs rest : List Char} (hrest : rest.head? ≠ some q)
    (he : escapes = true → '\\' ∉ cs) :
    closeString q escapes (double q cs ++ q :: rest) = some (cs, rest) := by
  induction cs with
  | nil => exact closeString_close hrest
  | cons c cs ih =>
    have hread := ih fun h hm => he h (List.mem_cons_of_mem c hm)
    by_cases hc : c = q
    · subst hc
      rw [double, if_pos rfl, List.cons_append, List.cons_append, closeString_doubled, hread]
      rfl
    · have hplain : escapes = true → c ≠ '\\' := fun h hm => he h (hm ▸ List.mem_cons_self)
      rw [double, if_neg hc, List.cons_append, closeString_plain hc hplain, hread]
      rfl

theorem length_double_cons_le (hq : q ≠ '\\') (c : Char) (s : List Char) :
    (double q (c :: s)).length + (c :: s).count '\\'
      ≤ (double q s).length + s.count '\\' + 2 := by
  by_cases hc : c = q
  · subst hc
    simp only [double, List.length_cons, if_pos, List.count_cons_of_ne hq]
    omega
  · have hcount : (c :: s).count '\\' ≤ s.count '\\' + 1 := by
      rw [List.count_cons]
      split <;> omega
    simp only [double, hc, if_false, List.length_cons]
    omega

/-- Where backslashes escape, a character that is read as a delimiter or a backslash has taken two
characters of the text. -/
theorem length_of_closeString (hq : q ≠ '\\') {cs s rest : List Char}
    (h : closeString q escapes cs = some (s, rest)) :
    (double q s).length + (if escapes then s.count '\\' else 0) + 1 + rest.length
      ≤ cs.length := by
  fun_induction closeString q escapes cs generalizing s with
  | case1 => cases h
  | case2 =>
    obtain ⟨rfl, rfl⟩ := Prod.mk.inj (Option.some.inj h)
    simp [double]
  | case3 => cases h
  | case4 cs ih =>
    obtain ⟨⟨t, _⟩, hread, hs⟩ := Option.map_eq_some_iff.mp h
    obtain ⟨rfl, rfl⟩ := Prod.mk.inj hs
    have ht := ih hread
    simp only [double, if_pos, List.count_cons_of_ne hq, List.length_cons]
    omega
  | case5 =>
    obtain ⟨rfl, rfl⟩ := Prod.mk.inj (Option.some.inj h)
    simp only [double, List.count_nil, ite_self, List.length_nil, List.length_cons]
    omega
  | case6 c c' cs _ hesc ih =>
    obtain ⟨⟨t, _⟩, hread, hs⟩ := Option.map_eq_some_iff.mp h
    obtain ⟨rfl, rfl⟩ := Prod.mk.inj hs
    have hcons := length_double_cons_le hq (unescaped c') t
    have ht := ih hread
    simp only [hesc.1, if_true, List.length_cons] at ht ⊢
    omega
  | case7 c c' cs hc hesc ih =>
    obtain ⟨⟨t, _⟩, hread, hs⟩ := Option.map_eq_some_iff.mp h
    obtain ⟨rfl, rfl⟩ := Prod.mk.inj hs
    have ht := ih hread
    simp only [double, hc, if_false, List.length_cons] at ht ⊢
    cases escapes with
    | false =>
      simp only [Bool.false_eq_true, if_false] at ht ⊢
      omega
    | true =>
      have hcount : (c :: t).count '\\' = t.count '\\' :=
        List.count_cons_of_ne fun hc => hesc ⟨rfl, hc⟩
      simp only [if_true, hcount] at ht ⊢
      omega

end TriplesSql.Select
