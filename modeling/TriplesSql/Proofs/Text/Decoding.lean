import TriplesSql.Proofs.Text.Percent

/-!
# Texts that can be decoded

Where a character starts, the bytes of a text can be cut. So a text can be cut in front of a
character that is no hexadecimal digit without loss: if the whole can be decoded, then so can what
stands in front of it, unless the character is a percent sign, which may stand for any byte.
-/

namespace TriplesSql.Text.Percent

variable {c : Char} {xs ys : List UInt8} {cs ds : List Char}

/-- The bytes are the UTF-8 form of some text. -/
def IsUtf8 (bs : List UInt8) : Prop := ∃ cs : List Char, bs = cs.flatMap String.utf8EncodeChar

theorem isUtf8_flatMap (cs : List Char) : IsUtf8 (cs.flatMap String.utf8EncodeChar) := ⟨cs, rfl⟩

theorem isUtf8_utf8EncodeChar (c : Char) : IsUtf8 (String.utf8EncodeChar c) :=
  ⟨[c], (List.flatMap_singleton _ c).symm⟩

theorem IsUtf8.append (hx : IsUtf8 xs) (hy : IsUtf8 ys) : IsUtf8 (xs ++ ys) := by
  obtain ⟨cs, rfl⟩ := hx
  obtain ⟨ds, rfl⟩ := hy
  exact ⟨cs ++ ds, List.flatMap_append.symm⟩

theorem decode?_ne_none_iff : decode? cs ≠ none ↔ IsUtf8 (bytes cs) := by
  rw [Option.ne_none_iff_exists']
  constructor
  · rintro ⟨s, hs⟩
    exact ⟨s.toList, decode?_eq_some_iff.mp hs⟩
  · rintro ⟨ds, hds⟩
    refine ⟨String.ofList ds, decode?_eq_some_iff.mpr ?_⟩
    rw [hds, utf8, String.toList_ofList]

theorem utf8EncodeChar_append_inj {d : Char}
    (h : String.utf8EncodeChar c ++ xs = String.utf8EncodeChar d ++ ys) : c = d ∧ xs = ys := by
  have harray := congrArg List.toByteArray h
  rw [List.toByteArray_append, List.toByteArray_append] at harray
  have hchar := congrArg (ByteArray.utf8DecodeChar? · 0) harray
  simp only [ByteArray.utf8DecodeChar?_utf8EncodeChar_append, Option.some.injEq] at hchar
  subst hchar
  exact ⟨rfl, List.append_cancel_left h⟩

theorem exists_utf8EncodeChar_eq_cons (c : Char) :
    ∃ b bs, String.utf8EncodeChar c = b :: bs ∧ b.IsUTF8FirstByte := by
  cases he : String.utf8EncodeChar c with
  | nil => exact absurd he (List.ne_nil_of_length_pos (by simp [c.utf8Size_pos]))
  | cons b bs =>
    have hfirst := UInt8.isUTF8FirstByte_getElem_zero_utf8EncodeChar (c := c)
    simp only [he] at hfirst
    exact ⟨b, bs, rfl, hfirst⟩

theorem eq_nil_of_utf8EncodeChar_eq {b : UInt8} (hb : b.IsUTF8FirstByte)
    (h : String.utf8EncodeChar c = xs ++ b :: ys) : xs = [] := by
  have hlt : xs.length < (String.utf8EncodeChar c).length := by
    rw [h, List.length_append, List.length_cons]
    omega
  have hget : (String.utf8EncodeChar c)[xs.length] = b := by
    simp only [h, List.getElem_append_right (Nat.le_refl _), Nat.sub_self, List.getElem_cons_zero]
  rw [← hget, UInt8.isUTF8FirstByte_getElem_utf8EncodeChar] at hb
  exact List.length_eq_zero_iff.mp hb

theorem IsUtf8.cut (h : IsUtf8 (xs ++ (String.utf8EncodeChar c ++ ys))) :
    IsUtf8 xs ∧ IsUtf8 ys := by
  obtain ⟨b, bs, hc, hb⟩ := exists_utf8EncodeChar_eq_cons c
  obtain ⟨cs, hcs⟩ := h
  induction cs generalizing xs with
  | nil =>
    rw [hc] at hcs
    simp at hcs
  | cons d cs ih =>
    rw [List.flatMap_cons] at hcs
    have here : xs = [] → IsUtf8 xs ∧ IsUtf8 ys := by
      rintro rfl
      obtain ⟨-, rfl⟩ := utf8EncodeChar_append_inj hcs
      exact ⟨isUtf8_flatMap [], isUtf8_flatMap cs⟩
    rcases List.append_eq_append_iff.mp hcs with ⟨ws, hw, hrest⟩ | ⟨ws, rfl, hrest⟩
    · -- what stands in front ends with the first character or within it
      cases ws with
      | nil =>
        have hcs : [] ++ (String.utf8EncodeChar c ++ ys) = cs.flatMap String.utf8EncodeChar :=
          hrest
        obtain ⟨-, hy⟩ := ih hcs
        rw [List.append_nil] at hw
        exact ⟨hw ▸ isUtf8_utf8EncodeChar d, hy⟩
      | cons b' ws =>
        rw [hc, List.cons_append, List.cons_append, List.cons.injEq] at hrest
        obtain ⟨rfl, -⟩ := hrest
        exact here (eq_nil_of_utf8EncodeChar_eq hb hw)
    · obtain ⟨hx, hy⟩ := ih hrest.symm
      exact ⟨(isUtf8_utf8EncodeChar d).append hx, hy⟩

theorem IsUtf8.of_flatMap_append (cs : List Char)
    (h : IsUtf8 (cs.flatMap String.utf8EncodeChar ++ ys)) : IsUtf8 ys := by
  induction cs with
  | nil => exact h
  | cons c cs ih =>
    rw [List.flatMap_cons, List.append_assoc] at h
    have hcut : IsUtf8 ([] ++ (String.utf8EncodeChar c
        ++ (cs.flatMap String.utf8EncodeChar ++ ys))) := h
    exact ih hcut.cut.2

theorem bytes_append_of_not_mem (h : '%' ∉ cs) (ds : List Char) :
    bytes (cs ++ ds) = cs.flatMap String.utf8EncodeChar ++ bytes ds := by
  induction cs with
  | nil => rfl
  | cons c cs ih =>
    rw [List.mem_cons, not_or] at h
    rw [List.cons_append, bytes_cons (Ne.symm h.1), ih h.2, List.flatMap_cons, List.append_assoc]

theorem isUtf8_bytes_of_not_mem (h : '%' ∉ cs) : IsUtf8 (bytes cs) := by
  have hbytes := bytes_append_of_not_mem h []
  rw [List.append_nil] at hbytes
  exact hbytes ▸ (isUtf8_flatMap cs).append (isUtf8_flatMap [])

theorem byte?_eq_none {high low : Char}
    (h : Hexadecimal.value? high = none ∨ Hexadecimal.value? low = none) :
    byte? high low = none := by
  unfold byte?
  split
  · next hhigh hlow =>
    rw [hhigh, hlow] at h
    rcases h with h | h <;> cases h
  · rfl

theorem bytes_percent_cons (h : ∀ high low rest, cs = high :: low :: rest → byte? high low = none) :
    bytes ('%' :: cs) = String.utf8EncodeChar '%' ++ bytes cs := by
  cases cs with
  | nil => rfl
  | cons high cs =>
    cases cs with
    | nil => rfl
    | cons low rest =>
      rw [bytes, h high low rest rfl]
      rfl

theorem bytes_append_cons (hc : Hexadecimal.value? c = none) (cs ds : List Char) :
    bytes (cs ++ c :: ds) = bytes cs ++ bytes (c :: ds) := by
  fun_induction bytes cs with
  | case1 h l cs b hb ih =>
    simp only [List.cons_append, bytes, hb, ih]
  | case2 h l cs hb ih =>
    simp only [List.cons_append, bytes, hb] at ih ⊢
    rw [ih]
  | case3 d cs hd ih =>
    rw [List.cons_append, List.append_assoc, ← ih]
    by_cases he : d = '%'
    · subst he
      refine bytes_percent_cons fun high low rest hcs => byte?_eq_none ?_
      -- the percent sign is followed by one character at most, and so by the given one
      cases cs with
      | nil =>
        obtain ⟨rfl, -⟩ := List.cons.inj hcs
        exact Or.inl hc
      | cons e cs =>
        cases cs with
        | nil =>
          simp only [List.cons_append, List.nil_append, List.cons.injEq] at hcs
          exact Or.inr (hcs.2.1 ▸ hc)
        | cons f cs => exact (hd e f cs rfl rfl).elim
    · exact bytes_cons he _
  | case4 => rfl

/-- A text that stands earlier behind the end of a piece leaves pieces on both sides of it that can
be decoded, if it begins with a character that is no digit. -/
theorem isUtf8_of_shift {gs ws zs ps qs : List Char} (hc : Hexadecimal.value? c = none)
    (hgap : '%' ∉ c :: gs) (hshift : ws ++ c :: gs = c :: gs ++ zs) (hw : ws ≠ [])
    (hp : IsUtf8 (bytes (ps ++ ws))) (hq : IsUtf8 (bytes qs)) :
    IsUtf8 (bytes ps) ∧ IsUtf8 (bytes (zs ++ qs)) := by
  cases ws with
  | nil => exact absurd rfl hw
  | cons d ws =>
    obtain ⟨rfl, -⟩ := List.cons.inj hshift
    have hne : d ≠ '%' := fun he => hgap (he ▸ List.mem_cons_self)
    rw [bytes_append_cons hc, bytes_cons hne] at hp
    obtain ⟨hps, hws⟩ := hp.cut
    have hleft : IsUtf8 (String.utf8EncodeChar d ++ bytes ws) :=
      (isUtf8_utf8EncodeChar d).append hws
    have hright : IsUtf8 ((d :: gs).flatMap String.utf8EncodeChar ++ bytes qs) :=
      (isUtf8_flatMap (d :: gs)).append hq
    have hall : bytes (d :: ws ++ (d :: (gs ++ qs)))
        = String.utf8EncodeChar d ++ bytes ws
          ++ ((d :: gs).flatMap String.utf8EncodeChar ++ bytes qs) := by
      rw [bytes_append_cons hc, bytes_cons hne, ← List.cons_append, bytes_append_of_not_mem hgap]
    refine ⟨hps, IsUtf8.of_flatMap_append (d :: gs) ?_⟩
    rw [← bytes_append_of_not_mem hgap, ← List.append_assoc, ← hshift, List.append_assoc]
    exact hall ▸ hleft.append hright

theorem value?_lt {n : Nat} (h : Hexadecimal.value? c = some n) : n < 16 := by
  have hle : ∀ {a b : Char}, a ≤ b → a.toNat ≤ b.toNat := fun h => h
  unfold Hexadecimal.value? at h
  split at h
  · next hd =>
    have hnine : c.toNat ≤ 57 := hle hd.2
    have hsub : c.toNat - 48 = n := Option.some.inj h
    omega
  split at h
  · next hd =>
    have hf : c.toNat ≤ 102 := hle hd.2
    have hsub : c.toNat - 97 + 10 = n := Option.some.inj h
    omega
  split at h
  · next hd =>
    have hf : c.toNat ≤ 70 := hle hd.2
    have hsub : c.toNat - 65 + 10 = n := Option.some.inj h
    omega
  · cases h

theorem bytes_open {h e : Char} {b : UInt8} {k n : Nat} (hb : byte? h h = some b)
    (he : Hexadecimal.value? e = some k) (hc : Hexadecimal.value? c = some n) (ds : List Char) :
    bytes (['%', h, h, '%', e] ++ c :: ds) = [b, UInt8.ofNat (16 * k + n)] ++ bytes ds := by
  have hsecond : byte? e c = some (UInt8.ofNat (16 * k + n)) := by rw [byte?, he, hc]
  simp only [List.cons_append, List.nil_append, bytes, hb, hsecond]

theorem exists_open (hc : Hexadecimal.value? c ≠ none) :
    ∃ x : List Char, x ≠ [] ∧ '\n' ∉ x ∧ c ∉ x ∧ decode? x = none
      ∧ ∀ ds, IsUtf8 (bytes ds) → IsUtf8 (bytes (x ++ c :: ds)) := by
  obtain ⟨n, hn⟩ := Option.ne_none_iff_exists'.mp hc
  have hcut : ∀ n < 16,
      [0xCC, UInt8.ofNat (16 * 8 + n)] = String.utf8EncodeChar (Char.ofNat (0x300 + n))
      ∧ [0xDD, UInt8.ofNat (16 * 9 + n)] = String.utf8EncodeChar (Char.ofNat (0x750 + n)) := by
    decide
  obtain ⟨hcc, hdd⟩ := hcut n (value?_lt hn)
  -- the text must not have the digit itself, so there are two texts to choose from
  by_cases hm : c ∈ ['%', 'C', 'C', '%', '8']
  · refine ⟨['%', 'D', 'D', '%', '9'], by decide, by decide, fun hd => ?_, by decide +kernel,
      fun ds hds => ?_⟩
    · have hboth : ∀ d ∈ ['%', 'C', 'C', '%', '8'], d ∈ ['%', 'D', 'D', '%', '9'] → d = '%' := by
        simp
      obtain rfl := hboth c hm hd
      exact hc (by decide)
    · have hlead : byte? 'D' 'D' = some 0xDD := by decide
      have hnine : Hexadecimal.value? '9' = some 9 := by decide
      rw [bytes_open hlead hnine hn, hdd]
      exact (isUtf8_utf8EncodeChar _).append hds
  · refine ⟨['%', 'C', 'C', '%', '8'], by decide, by decide, hm, by decide +kernel,
      fun ds hds => ?_⟩
    have hlead : byte? 'C' 'C' = some 0xCC := by decide
    have height : Hexadecimal.value? '8' = some 8 := by decide
    rw [bytes_open hlead height hn, hcc]
    exact (isUtf8_utf8EncodeChar _).append hds

end TriplesSql.Text.Percent
