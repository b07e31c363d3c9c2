import Mathlib.Data.List.Basic
import TriplesSql.Json.Printer
import TriplesSql.Json.Reader

/-!
# Reading printed JSON

What is printed of a value without numbers is read back as this value, whatever stands behind it.
An escaped character is one part of a string, and no more calls of the reader stand inside each
other than two for each character of the text.
-/

namespace TriplesSql.Json

open Text

theorem eq_ofNat_of_toNat_eq {c : Char} {n : Nat} (h : c.toNat = n) : c = Char.ofNat n := by
  rw [← h, Char.ofNat_toNat]

def IsPart (text : List Char) (c : Char) : Prop :=
  ∃ p, (∀ cs, stringParts (text ++ cs) = (stringParts cs).map fun (ps, rest) => (p :: ps, rest))
    ∧ ∀ ps, joinParts (p :: ps) = (joinParts ps).map (c :: ·)

theorem isPart_escaped {e c : Char} (he : e ≠ 'u') (h : escaped? e = some c) :
    IsPart ['\\', e] c := by
  refine ⟨.char c, fun cs => ?_, fun ps => rfl⟩
  rw [List.cons_append, List.cons_append, List.nil_append, stringParts, h]
  · cases stringParts cs <;> rfl
  · intro _ _ _ _ _ hu
    exact absurd hu he

theorem isPart_plain {c : Char} (hquote : c ≠ '"') (hslash : c ≠ '\\') (hc : ¬c.toNat < 0x20) :
    IsPart [c] c := by
  refine ⟨.char c, fun cs => ?_, fun ps => rfl⟩
  rw [List.cons_append, List.nil_append, stringParts]
  · rw [if_neg (by simp [hslash, hc])]
    cases stringParts cs <;> rfl
  · exact hquote
  · intro _ _ _ _ _ hs
    exact absurd hs hslash
  · intro _ _ hs
    exact absurd hs hslash

theorem number?_lowerDigits : ∀ n < 0x20, Hexadecimal.number?
    ['0', '0', Hexadecimal.lowerDigit (n / 16), Hexadecimal.lowerDigit (n % 16)] = some n := by
  decide

theorem isPart_control {c : Char} (hc : c.toNat < 0x20) :
    IsPart ['\\', 'u', '0', '0', Hexadecimal.lowerDigit (c.toNat / 16),
      Hexadecimal.lowerDigit (c.toNat % 16)] c := by
  have hhigh : isHighHalf c.toNat = false := by
    simp only [isHighHalf, Bool.and_eq_false_iff, decide_eq_false_iff_not]
    omega
  have hlow : isLowHalf c.toNat = false := by
    simp only [isLowHalf, Bool.and_eq_false_iff, decide_eq_false_iff_not]
    omega
  refine ⟨.unit c.toNat, fun cs => ?_, fun ps => ?_⟩
  · simp only [List.cons_append, List.nil_append]
    rw [stringParts, number?_lowerDigits c.toNat hc]
    cases stringParts cs <;> rfl
  · -- a control character is no half of a pair, so it stands for itself whatever follows
    rcases ps with _ | ⟨_ | m, ps⟩ <;> simp [joinParts, hhigh, hlow, Char.ofNat_toNat]

theorem isPart_escaped_of_toNat {c e : Char} {n : Nat} (h : c.toNat = n) (he : e ≠ 'u')
    (hn : escaped? e = some (Char.ofNat n)) : IsPart ['\\', e] c := by
  rw [eq_ofNat_of_toNat_eq h]
  exact isPart_escaped he hn

theorem isPart_escapeChar (c : Char) : IsPart (escapeChar c) c := by
  unfold escapeChar
  split
  · next h => exact isPart_escaped_of_toNat h (by decide) rfl
  · next h => exact isPart_escaped_of_toNat h (by decide) rfl
  · next h => exact isPart_escaped_of_toNat h (by decide) rfl
  · next h => exact isPart_escaped_of_toNat h (by decide) rfl
  · next h => exact isPart_escaped_of_toNat h (by decide) rfl
  · next h => exact isPart_escaped_of_toNat h (by decide) rfl
  · next h => exact isPart_escaped_of_toNat h (by decide) rfl
  · next hquote hslash =>
    split
    · next hc => exact isPart_control hc
    · next hc =>
      refine isPart_plain ?_ ?_ hc
      · rintro rfl
        exact hquote rfl
      · rintro rfl
        exact hslash rfl

theorem stringParts_escaped (cs rest : List Char) :
    ∃ ps, stringParts (cs.flatMap escapeChar ++ '"' :: rest) = some (ps, rest)
      ∧ joinParts ps = some cs := by
  induction cs with
  | nil => exact ⟨[], rfl, rfl⟩
  | cons c cs ih =>
    obtain ⟨ps, hps, hjoin⟩ := ih
    obtain ⟨p, hp, hc⟩ := isPart_escapeChar c
    refine ⟨p :: ps, ?_, ?_⟩
    · rw [List.flatMap_cons, List.append_assoc, hp, hps]
      rfl
    · rw [hc, hjoin]
      rfl

theorem stringBody_escaped (s : String) (rest : List Char) :
    stringBody (s.toList.flatMap escapeChar ++ '"' :: rest) = some (some s, rest) := by
  obtain ⟨ps, hps, hjoin⟩ := stringParts_escaped s.toList rest
  rw [stringBody, hps, Option.map_some]
  dsimp only
  rw [hjoin, Option.map_some, String.ofList_toList]

theorem printString_append (s : String) (rest : List Char) :
    printString (some s) ++ rest = '"' :: (s.toList.flatMap escapeChar ++ '"' :: rest) := by
  show '"' :: s.toList.flatMap escapeChar ++ ['"'] ++ rest = _
  rw [List.append_assoc, List.cons_append, List.cons_append, List.nil_append]

/-- A value that is made of texts, arrays and objects. -/
inductive IsTextual : Json → Prop
  | text (s : String) : IsTextual (.text s)
  | array {items : List Json} (h : ∀ v ∈ items, IsTextual v) : IsTextual (.array items)
  | record {members : List (String × Json)} (h : ∀ m ∈ members, IsTextual m.2) :
    IsTextual (.record members)

attribute [simp] IsTextual.text

/-- What is printed of a value is read back with enough fuel. Its first character shows that it is
no closing bracket. -/
structure ReadsBack (v : Json) : Prop where
  head : ∃ c cs, print v = c :: cs ∧ c ∈ ['"', '[', '{']
  value : ∀ fuel rest, 2 * (print v).length ≤ fuel + 1 →
    value fuel (print v ++ rest) = some (v, rest)

theorem ReadsBack.length_pos {v : Json} (h : ReadsBack v) : 0 < (print v).length := by
  obtain ⟨c, cs, hv, -⟩ := h.head
  rw [hv, List.length_cons]
  omega

theorem readsBack_text (s : String) : ReadsBack (.text s) := by
  refine ⟨⟨'"', _, rfl, by simp⟩, fun fuel rest hf => ?_⟩
  cases fuel with
  | zero =>
    have hlen : 0 < (print (.text s)).length := Nat.succ_pos _
    omega
  | succ fuel =>
    have hread : value (fuel + 1) ('"' :: (s.toList.flatMap escapeChar ++ '"' :: rest))
        = (stringBody (s.toList.flatMap escapeChar ++ '"' :: rest)).map
          fun r => (.string r.1, r.2) := rfl
    change value (fuel + 1) (printString (some s) ++ rest) = _
    rw [printString_append, hread, stringBody_escaped]
    rfl

section step

variable {fuel : Nat} {cs cs' rest : List Char} {v : Json}

theorem items_last (h : value fuel cs = some (v, ']' :: rest)) :
    items (fuel + 1) cs = some ([v], rest) := by
  rw [items, h]
  rfl

theorem items_more {vs : List Json} (h : value fuel cs = some (v, ',' :: cs'))
    (hrest : items fuel cs' = some (vs, rest)) :
    items (fuel + 1) cs = some (v :: vs, rest) := by
  rw [items, h]
  change (items fuel cs').bind _ = _
  rw [hrest]
  rfl

variable {name : Option String}

theorem members_last (hname : stringBody cs = some (name, ':' :: cs'))
    (h : value fuel cs' = some (v, '}' :: rest)) :
    members (fuel + 1) ('"' :: cs) = some ([(name, v)], rest) := by
  change (stringBody cs).bind _ = _
  rw [hname]
  change (value fuel cs').bind _ = _
  rw [h]
  rfl

theorem members_more {ms : List (Option String × Json)} {cs'' : List Char}
    (hname : stringBody cs = some (name, ':' :: cs'))
    (h : value fuel cs' = some (v, ',' :: cs'')) (hrest : members fuel cs'' = some (ms, rest)) :
    members (fuel + 1) ('"' :: cs) = some ((name, v) :: ms, rest) := by
  change (stringBody cs).bind _ = _
  rw [hname]
  change (value fuel cs').bind _ = _
  rw [h]
  change (members fuel cs'').bind _ = _
  rw [hrest]
  rfl

end step

def named (ms : List (String × Json)) : List (Option String × Json) :=
  ms.map fun m => (some m.1, m.2)

/-- Each item takes two calls inside each other at the most, the first item and all others. -/
theorem items_printItems {vs : List Json} (hvs : ∀ v ∈ vs, ReadsBack v) (hne : vs ≠ [])
    (rest : List Char) (fuel : Nat) (hf : 2 * (printItems vs).length ≤ fuel) :
    items fuel (printItems vs ++ ']' :: rest) = some (vs, rest) := by
  induction vs generalizing fuel with
  | nil => exact absurd rfl hne
  | cons v vs ih =>
    have hv := hvs v List.mem_cons_self
    have hpos := hv.length_pos
    cases vs with
    | nil =>
      rw [printItems] at hf ⊢
      obtain ⟨fuel, rfl⟩ := Nat.exists_eq_add_of_le' (show 1 ≤ fuel by omega)
      exact items_last (hv.value fuel _ hf)
    | cons w vs =>
      rw [printItems, List.length_append, List.length_cons] at hf
      obtain ⟨fuel, rfl⟩ := Nat.exists_eq_add_of_le' (show 1 ≤ fuel by omega)
      have hrest : items fuel (printItems (w :: vs) ++ ']' :: rest) = some (w :: vs, rest) :=
        ih (fun x hx => hvs x (List.mem_cons_of_mem v hx)) (List.cons_ne_nil w vs) fuel (by omega)
      rw [printItems, List.append_assoc, List.cons_append]
      exact items_more (hv.value fuel _ (by omega)) hrest

theorem members_printMembers {ms : List (String × Json)} (hms : ∀ m ∈ ms, ReadsBack m.2)
    (hne : ms ≠ []) (rest : List Char) (fuel : Nat)
    (hf : 2 * (printMembers (named ms)).length ≤ fuel) :
    members fuel (printMembers (named ms) ++ '}' :: rest) = some (named ms, rest) := by
  induction ms generalizing fuel with
  | nil => exact absurd rfl hne
  | cons m ms ih =>
    have hv := hms m List.mem_cons_self
    have hpos := hv.length_pos
    cases ms with
    | nil =>
      change 2 * (printString (some m.1) ++ ':' :: print m.2).length ≤ fuel at hf
      change members fuel ((printString (some m.1) ++ ':' :: print m.2) ++ '}' :: rest) = _
      rw [List.length_append, List.length_cons] at hf
      obtain ⟨fuel, rfl⟩ := Nat.exists_eq_add_of_le' (show 1 ≤ fuel by omega)
      rw [List.append_assoc, printString_append]
      exact members_last (stringBody_escaped m.1 _) (hv.value fuel _ (by omega))
    | cons m' ms =>
      change 2 * (printString (some m.1) ++ ':' :: print m.2
        ++ ',' :: printMembers (named (m' :: ms))).length ≤ fuel at hf
      change members fuel ((printString (some m.1) ++ ':' :: print m.2
        ++ ',' :: printMembers (named (m' :: ms))) ++ '}' :: rest) = _
      simp only [List.length_append, List.length_cons] at hf
      obtain ⟨fuel, rfl⟩ := Nat.exists_eq_add_of_le' (show 1 ≤ fuel by omega)
      have hrest := ih (fun x hx => hms x (List.mem_cons_of_mem m hx)) (List.cons_ne_nil m' ms) fuel
        (by omega)
      rw [List.append_assoc, List.append_assoc, printString_append, List.cons_append,
        List.cons_append]
      exact members_more (stringBody_escaped m.1 _) (hv.value fuel _ (by omega)) hrest

theorem readsBack_array {vs : List Json} (hvs : ∀ v ∈ vs, ReadsBack v) :
    ReadsBack (.array vs) := by
  refine ⟨⟨'[', _, rfl, by simp⟩, fun fuel rest hf => ?_⟩
  change 2 * ('[' :: printItems vs ++ [']']).length ≤ fuel + 1 at hf
  change value fuel ('[' :: printItems vs ++ [']'] ++ rest) = _
  rw [List.length_append, List.length_cons] at hf
  obtain ⟨fuel, rfl⟩ := Nat.exists_eq_add_of_le' (show 1 ≤ fuel by omega)
  rw [List.append_assoc, List.cons_append, List.cons_append, List.nil_append]
  cases vs with
  | nil => rfl
  | cons v vs =>
    have hread := items_printItems hvs (List.cons_ne_nil v vs) rest fuel (by omega)
    -- the array is not empty, since the first item begins with no closing bracket
    obtain ⟨c, cs, hv, hc⟩ := (hvs v List.mem_cons_self).head
    obtain ⟨cs', hcs'⟩ : ∃ cs', printItems (v :: vs) ++ ']' :: rest = c :: cs' := by
      cases vs with
      | nil => exact ⟨_, by rw [printItems, hv]; rfl⟩
      | cons w vs => exact ⟨_, by rw [printItems, hv]; rfl⟩
    have hstep : value (fuel + 1) ('[' :: c :: cs')
        = (items fuel (c :: cs')).map fun r => (.array r.1, r.2) := by
      simp only [List.mem_cons, List.not_mem_nil, or_false] at hc
      rcases hc with rfl | rfl | rfl <;> rfl
    rw [hcs', hstep, ← hcs', hread]
    rfl

theorem readsBack_record {ms : List (String × Json)} (hms : ∀ m ∈ ms, ReadsBack m.2) :
    ReadsBack (.record ms) := by
  refine ⟨⟨'{', _, rfl, by simp⟩, fun fuel rest hf => ?_⟩
  change 2 * ('{' :: printMembers (named ms) ++ ['}']).length ≤ fuel + 1 at hf
  change value fuel ('{' :: printMembers (named ms) ++ ['}'] ++ rest) = _
  rw [List.length_append, List.length_cons] at hf
  obtain ⟨fuel, rfl⟩ := Nat.exists_eq_add_of_le' (show 1 ≤ fuel by omega)
  rw [List.append_assoc, List.cons_append, List.cons_append, List.nil_append]
  cases ms with
  | nil => rfl
  | cons m ms =>
    have hread := members_printMembers hms (List.cons_ne_nil m ms) rest fuel (by omega)
    obtain ⟨cs, hcs⟩ : ∃ cs, printMembers (named (m :: ms)) ++ '}' :: rest = '"' :: cs := by
      cases ms with
      | nil => exact ⟨_, rfl⟩
      | cons m' ms => exact ⟨_, rfl⟩
    have hstep : value (fuel + 1) ('{' :: '"' :: cs)
        = (members fuel ('"' :: cs)).map fun r => (.object r.1, r.2) := rfl
    rw [hcs, hstep, ← hcs, hread]
    rfl

theorem IsTextual.readsBack {v : Json} (h : IsTextual v) : ReadsBack v := by
  induction h with
  | text s => exact readsBack_text s
  | array _ ih => exact readsBack_array ih
  | record _ ih => exact readsBack_record ih

theorem IsTextual.ofText?_toText {v : Json} (h : IsTextual v) : ofText? v.toText = some v := by
  have hread := h.readsBack.value (2 * (print v).length + 2) [] (by omega)
  rw [List.append_nil] at hread
  unfold ofText? toText
  dsimp only
  rw [String.toList_ofList, hread]
  rfl

end TriplesSql.Json
