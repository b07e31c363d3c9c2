import Mathlib.Data.List.Basic
import TriplesSql.Text.Digits

/-!
# Percent encoding byte by byte

Decoding takes encoding back. It also takes other texts to the same bytes, since a percent sign may
stand for itself. A proper beginning of an encoded text has the bytes of the whole text only if what
is cut off are the two digits of the percent sign itself, in this or in the other order.
-/

namespace TriplesSql.Text.Percent

def utf8 (s : String) : List UInt8 := s.toList.flatMap String.utf8EncodeChar

theorem toByteArray_eq (s : String) : s.toByteArray = ⟨(utf8 s).toArray⟩ := by
  rw [← String.utf8Encode_toList, List.utf8Encode, ByteArray.ext_iff, List.data_toByteArray]
  rfl

theorem decode?_eq_some_iff {cs : List Char} {s : String} :
    decode? cs = some s ↔ bytes cs = utf8 s := by
  unfold decode? String.fromUTF8?
  have hbytes : (⟨(bytes cs).toArray⟩ : ByteArray) = s.toByteArray ↔ bytes cs = utf8 s := by
    rw [toByteArray_eq, ByteArray.mk.injEq]
    exact ⟨List.toArray_inj, congrArg List.toArray⟩
  split
  · rw [Option.some.injEq, ← String.toByteArray_inj]
    exact hbytes
  · next h =>
    refine ⟨fun he => (nomatch he), fun he => ?_⟩
    rw [hbytes.mpr he] at h
    exact absurd s.isValidUTF8 h

theorem toNat_of_isAlphanum {c : Char} (h : c.isAlphanum = true) :
    65 ≤ c.toNat ∧ c.toNat ≤ 90 ∨ 97 ≤ c.toNat ∧ c.toNat ≤ 122 ∨ 48 ≤ c.toNat ∧ c.toNat ≤ 57 := by
  change (decide ('A'.val ≤ c.val ∧ c.val ≤ 'Z'.val)
    || (decide ('a'.val ≤ c.val) && decide (c.val ≤ 'z'.val))
    || (decide ('0'.val ≤ c.val) && decide (c.val ≤ '9'.val))) = true at h
  simp only [Bool.or_eq_true, Bool.and_eq_true, decide_eq_true_eq, UInt32.le_iff_toNat_le] at h
  exact or_assoc.mp h

theorem isUnreserved_bounds {c : Char} (h : isUnreserved c = true) :
    c.toNat < 128 ∧ c ≠ '%' ∧ c ≠ '\n' := by
  simp only [isUnreserved, Bool.or_eq_true, beq_iff_eq] at h
  rcases h with (((h | rfl) | rfl) | rfl) | rfl
  · have hn := toNat_of_isAlphanum h
    refine ⟨by omega, ?_, ?_⟩
    · rintro rfl
      exact absurd hn (by decide)
    · rintro rfl
      exact absurd hn (by decide)
  · decide
  · decide
  · decide
  · decide

theorem utf8EncodeChar_of_lt {c : Char} (h : c.toNat < 128) :
    String.utf8EncodeChar c = [UInt8.ofNat c.toNat] := by
  have hle : c.val.toNat ≤ 0x7f := Nat.le_of_lt_succ h
  simp only [String.utf8EncodeChar, hle, if_true]
  rfl

theorem le_of_mem_utf8EncodeChar {c : Char} (h : 128 ≤ c.toNat) {b : UInt8}
    (hb : b ∈ String.utf8EncodeChar c) : 128 ≤ b.toNat := by
  have hle : ¬c.val.toNat ≤ 0x7f := Nat.not_le.mpr h
  simp only [String.utf8EncodeChar, hle, if_false] at hb
  split at hb
  · simp only [List.mem_cons, List.not_mem_nil, or_false] at hb
    rcases hb with rfl | rfl <;> rw [UInt8.toNat_ofNat'] <;> omega
  · split at hb
    · simp only [List.mem_cons, List.not_mem_nil, or_false] at hb
      rcases hb with rfl | rfl | rfl <;> rw [UInt8.toNat_ofNat'] <;> omega
    · simp only [List.mem_cons, List.not_mem_nil, or_false] at hb
      rcases hb with rfl | rfl | rfl | rfl <;> rw [UInt8.toNat_ofNat'] <;> omega

def octetChar (b : UInt8) : Char := Char.ofNat b.toNat

/-- A byte, encoded unless it is the byte of a character that stands for itself. -/
def encodeOctet (b : UInt8) : List Char :=
  if isUnreserved (octetChar b) then [octetChar b] else encodeByte b

theorem toNat_octetChar (b : UInt8) : (octetChar b).toNat = b.toNat := by
  have hb := b.toNat_lt
  have hv : b.toNat.isValidChar := Or.inl (by omega)
  rw [octetChar, Char.ofNat, dif_pos hv]
  rfl

theorem octetChar_ofNat {c : Char} (h : c.toNat < 128) : octetChar (UInt8.ofNat c.toNat) = c := by
  rw [octetChar, UInt8.toNat_ofNat', Nat.mod_eq_of_lt (by omega), Char.ofNat_toNat]

theorem encodeChar_eq (c : Char) :
    encodeChar c = (String.utf8EncodeChar c).flatMap encodeOctet := by
  by_cases hc : c.toNat < 128
  · rw [encodeChar, utf8EncodeChar_of_lt hc, List.flatMap_singleton, List.flatMap_singleton,
      encodeOctet, octetChar_ofNat hc]
  · have hr : isUnreserved c = false := by
      rw [Bool.eq_false_iff]
      exact fun h => hc (isUnreserved_bounds h).1
    rw [encodeChar, hr, if_neg Bool.false_ne_true]
    refine List.flatMap_congr fun b hb => ?_
    have hle := le_of_mem_utf8EncodeChar (Nat.not_lt.mp hc) hb
    rw [encodeOctet, if_neg]
    intro h
    have hlt := (isUnreserved_bounds h).1
    rw [toNat_octetChar] at hlt
    omega

theorem toList_encode (s : String) : (encode s).toList = (utf8 s).flatMap encodeOctet := by
  rw [encode, String.toList_ofList, utf8, List.flatMap_assoc]
  exact congrArg (s.toList.flatMap ·) (funext encodeChar_eq)

theorem value?_upperDigit : ∀ n < 16, Hexadecimal.value? (Hexadecimal.upperDigit n) = some n := by
  decide

theorem isUnreserved_upperDigit : ∀ n < 16, isUnreserved (Hexadecimal.upperDigit n) = true := by
  decide

theorem byte?_upperDigit (b : UInt8) :
    byte? (Hexadecimal.upperDigit (b.toNat / 16)) (Hexadecimal.upperDigit (b.toNat % 16))
      = some b := by
  have hb := b.toNat_lt
  simp only [byte?, value?_upperDigit (b.toNat / 16) (by omega),
    value?_upperDigit (b.toNat % 16) (by omega), Nat.div_add_mod, UInt8.ofNat_toNat]

theorem bytes_cons {c : Char} (h : c ≠ '%') (cs : List Char) :
    bytes (c :: cs) = String.utf8EncodeChar c ++ bytes cs := by
  rw [bytes]
  exact fun _ _ _ hc => absurd hc h

theorem bytes_cons_of_isUnreserved {c : Char} (h : isUnreserved c = true) (cs : List Char) :
    bytes (c :: cs) = UInt8.ofNat c.toNat :: bytes cs := by
  obtain ⟨hlt, hne, -⟩ := isUnreserved_bounds h
  rw [bytes_cons hne, utf8EncodeChar_of_lt hlt]
  rfl

theorem bytes_encodeOctet_append (b : UInt8) (cs : List Char) :
    bytes (encodeOctet b ++ cs) = b :: bytes cs := by
  unfold encodeOctet
  split
  · next h =>
    rw [List.singleton_append, bytes_cons_of_isUnreserved h, toNat_octetChar, UInt8.ofNat_toNat]
  · simp only [encodeByte, List.cons_append, List.nil_append, bytes, byte?_upperDigit]

theorem bytes_flatMap_append (bs : List UInt8) (cs : List Char) :
    bytes (bs.flatMap encodeOctet ++ cs) = bs ++ bytes cs := by
  induction bs with
  | nil => rfl
  | cons b bs ih =>
    rw [List.flatMap_cons, List.append_assoc, bytes_encodeOctet_append, ih, List.cons_append]

theorem decode?_encode (s : String) : decode? (encode s).toList = some s := by
  have h := bytes_flatMap_append (utf8 s) []
  rw [List.append_nil] at h
  rw [decode?_eq_some_iff, toList_encode, h]
  exact List.append_nil _

theorem encodeOctet_eq_of_not {b : UInt8} (h : isUnreserved (octetChar b) = false) :
    encodeOctet b = encodeByte b := by
  rw [encodeOctet, h, if_neg Bool.false_ne_true]

theorem mem_encode {s : String} {c : Char} (h : c ∈ (encode s).toList) :
    isUnreserved c = true ∨ c = '%' := by
  rw [toList_encode] at h
  obtain ⟨b, -, hc⟩ := List.mem_flatMap.mp h
  have hb := b.toNat_lt
  unfold encodeOctet at hc
  split at hc
  · next hu =>
    rw [List.mem_singleton.mp hc]
    exact Or.inl hu
  · simp only [encodeByte, List.mem_cons, List.not_mem_nil, or_false] at hc
    rcases hc with rfl | rfl | rfl
    · exact Or.inr rfl
    · exact Or.inl (isUnreserved_upperDigit _ (by omega))
    · exact Or.inl (isUnreserved_upperDigit _ (by omega))

theorem newline_not_mem_encode (s : String) : '\n' ∉ (encode s).toList := by
  intro h
  rcases mem_encode h with h | h
  · exact (isUnreserved_bounds h).2.2 rfl
  · exact absurd h (by decide)

theorem encode_ne_nil {s : String} (h : s ≠ "") : (encode s).toList ≠ [] := by
  intro hnil
  have hs := decode?_encode s
  rw [hnil] at hs
  exact h (Option.some.inj hs).symm

/-- The second text has two digits in front that the first one has not: those of the percent
sign. -/
def Displaced (rest cs : List Char) : Prop :=
  cs = '2' :: '5' :: rest ∨ cs = '5' :: '2' :: rest

theorem bytes_ne_nil (c : Char) (cs : List Char) : bytes (c :: cs) ≠ [] := by
  unfold bytes
  split
  · split <;> exact List.cons_ne_nil _ _
  · next d _ _ _ =>
    intro h
    have hlen := congrArg List.length (List.append_eq_nil_iff.mp h).1
    rw [String.length_utf8EncodeChar] at hlen
    exact absurd hlen (Nat.ne_of_gt d.utf8Size_pos)
  · next heq => nomatch heq

/-- A proper beginning of an encoded text that decodes like the whole leaves two digits. The percent
sign that it cuts off from its digits stands for itself, so the text ends there. -/
theorem displaced_of_cut {bs : List UInt8} {p w : List Char} (h : bs.flatMap encodeOctet = p ++ w)
    (hw : w ≠ []) (hp : bytes p = bs) :
    Displaced [] w := by
  induction bs generalizing p with
  | nil => exact absurd (List.append_eq_nil_iff.mp h.symm).2 hw
  | cons b bs ih =>
    rw [List.flatMap_cons] at h
    cases hu : isUnreserved (octetChar b) with
    | true =>
      rw [encodeOctet, hu, if_pos rfl] at h
      cases p with
      | nil => exact absurd hp.symm (List.cons_ne_nil b bs)
      | cons c p =>
        simp only [List.cons_append, List.nil_append, List.cons.injEq] at h
        obtain ⟨rfl, ht⟩ := h
        rw [bytes_cons_of_isUnreserved hu, List.cons.injEq] at hp
        exact ih ht hp.2
    | false =>
      rw [encodeOctet_eq_of_not hu, encodeByte] at h
      match p with
      | [] => exact absurd hp.symm (List.cons_ne_nil b bs)
      | [c] =>
        simp only [List.cons_append, List.nil_append, List.cons.injEq] at h
        obtain ⟨rfl, ht⟩ := h
        change [37] = b :: bs at hp
        obtain ⟨rfl, rfl⟩ := List.cons.inj hp
        exact Or.inl ht.symm
      | [c, d] =>
        simp only [List.cons_append, List.nil_append, List.cons.injEq] at h
        obtain ⟨rfl, hd, ht⟩ := h
        have hb : (37 : UInt8) = b := (List.cons.inj hp).1
        have hbs : bytes [d] = bs := (List.cons.inj hp).2
        subst hb hd
        change [50] = bs at hbs
        subst hbs
        exact Or.inr ht.symm
      | c :: d :: e :: p =>
        simp only [List.cons_append, List.nil_append, List.cons.injEq] at h
        obtain ⟨rfl, rfl, rfl, ht⟩ := h
        simp only [bytes, byte?_upperDigit, List.cons.injEq] at hp
        exact ih ht hp.2

theorem encodeOctet_of_isUnreserved {c : Char} (h : isUnreserved c = true) :
    encodeOctet (UInt8.ofNat c.toNat) = [c] := by
  rw [encodeOctet, octetChar_ofNat (isUnreserved_bounds h).1, if_pos h]

theorem rotate_bytes {d e : Char} (hd : isUnreserved d = true) (he : isUnreserved e = true)
    {p rest cs : List Char} (h : p ++ cs = d :: e :: ((bytes p).flatMap encodeOctet ++ rest)) :
    cs = d :: e :: rest ∨ cs = e :: d :: rest := by
  induction p generalizing d e with
  | nil => exact Or.inl h
  | cons c p ih =>
    obtain ⟨rfl, ht⟩ := List.cons.inj h
    rw [bytes_cons_of_isUnreserved hd, List.flatMap_cons, encodeOctet_of_isUnreserved hd] at ht
    exact (ih he hd ht).symm

theorem rotate_append {d e : Char} {p rest cs : List Char} (h : p ++ cs = d :: e :: (p ++ rest)) :
    cs = d :: e :: rest ∨ cs = e :: d :: rest := by
  induction p generalizing d e with
  | nil => exact Or.inl h
  | cons c p ih =>
    obtain ⟨rfl, ht⟩ := List.cons.inj h
    exact (ih ht).symm

theorem Displaced.append {w : List Char} (h : Displaced [] w) (rest : List Char) :
    Displaced rest (w ++ rest) := by
  rcases h with rfl | rfl
  · exact Or.inl rfl
  · exact Or.inr rfl

theorem Displaced.of_bytes {p rest cs : List Char}
    (h : Displaced ((bytes p).flatMap encodeOctet ++ rest) (p ++ cs)) : Displaced rest cs := by
  rcases h with h | h
  · exact rotate_bytes (by decide) (by decide) h
  · exact (rotate_bytes (by decide) (by decide) h).symm

theorem Displaced.of_append {p rest cs : List Char} (h : Displaced (p ++ rest) (p ++ cs)) :
    Displaced rest cs := by
  rcases h with h | h
  · exact rotate_append h
  · exact (rotate_append h).symm

end TriplesSql.Text.Percent
