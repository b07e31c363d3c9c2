import TriplesSql.Command.Run
import TriplesSql.Proofs.Unfold.Sharing
import TriplesSql.Settings.Toml

/-!
# Labels that are identifiers

Every label of a query is the prefix of the settings with digits, underscores and plain column names
behind it. Settings that are read from a text have a prefix of ASCII letters, digits and
underscores, so labels have no other characters. But the prefix may begin with a digit, and then no
label is an identifier.
-/

namespace TriplesSql

open Settings

variable {x y : String} {c : Char}

def IsWord (s : String) : Prop := ∀ c ∈ s.toList, isPrefixChar c = true

/-- A plain identifier begins with an ASCII letter or an underscore and goes on with ASCII letters,
digits and underscores. -/
structure IsIdentifier (s : String) : Prop where
  first : ∃ c, s.toList.head? = some c ∧ (c.isAlpha = true ∨ c = '_')
  chars : ∀ c ∈ s.toList, c.isAlphanum = true ∨ c = '_'

theorem isPrefixChar_iff : isPrefixChar c = true ↔ c.isAlphanum = true ∨ c = '_' := by
  simp [isPrefixChar]

theorem isWord_append_iff : IsWord (x ++ y) ↔ IsWord x ∧ IsWord y := by
  simp only [IsWord, String.toList_append, List.forall_mem_append]

theorem isWord_underscore : IsWord "_" := by
  intro c hc
  obtain rfl := List.mem_singleton.mp hc
  decide

theorem isWord_toString (n : Nat) : IsWord (toString n) := by
  intro c hc
  have hdigit := isDigit_of_mem_toString hc
  simp [isPrefixChar, Char.isAlphanum, hdigit]

theorem isWord_plainName (column : String) : IsWord (plainName column) := by
  intro c hc
  rw [plainName, String.toList_ofList] at hc
  obtain ⟨x, -, rfl⟩ := List.mem_map.mp hc
  split
  · next halphanum => simp [isPrefixChar, halphanum]
  · decide

theorem isDigit_eq_false (h : c.isAlpha = true ∨ c = '_') : c.isDigit = false := by
  rcases h with h | rfl
  · rw [Bool.eq_false_iff]
    intro hdigit
    change (decide ('A'.val ≤ c.val ∧ c.val ≤ 'Z'.val)
      || (decide ('a'.val ≤ c.val) && decide (c.val ≤ 'z'.val))) = true at h
    change (decide ('0'.val ≤ c.val) && decide (c.val ≤ '9'.val)) = true at hdigit
    simp only [Bool.or_eq_true, Bool.and_eq_true, decide_eq_true_eq, UInt32.le_iff_toNat_le]
      at h hdigit
    have hletter : 65 ≤ c.toNat ∧ c.toNat ≤ 90 ∨ 97 ≤ c.toNat ∧ c.toNat ≤ 122 := h
    have hnumber : 48 ≤ c.toNat ∧ c.toNat ≤ 57 := hdigit
    omega
  · decide

theorem isIdentifier_append_iff (hx : x ≠ "") (hword : IsWord (x ++ y)) :
    IsIdentifier (x ++ y) ↔ ∀ c ∈ x.toList.head?, c.isDigit = false := by
  obtain ⟨c, cs, htext⟩ := List.exists_cons_of_ne_nil (mt String.toList_eq_nil_iff.mp hx)
  have hhead : (x ++ y).toList.head? = some c := by
    rw [String.toList_append, htext]
    rfl
  have hchars : ∀ d ∈ (x ++ y).toList, d.isAlphanum = true ∨ d = '_' :=
    fun d hd => isPrefixChar_iff.mp (hword d hd)
  have hfirst : (∀ d ∈ x.toList.head?, d.isDigit = false) ↔ c.isDigit = false := by
    rw [htext]
    simp
  rw [hfirst]
  constructor
  · rintro ⟨⟨d, hd, hstart⟩, -⟩
    obtain rfl := Option.some.inj (hhead.symm.trans hd)
    exact isDigit_eq_false hstart
  · intro hdigit
    have halphanum := hchars c (List.mem_of_mem_head? hhead)
    rw [Char.isAlphanum, hdigit, Bool.or_false] at halphanum
    exact ⟨⟨c, hhead, halphanum⟩, hchars⟩

namespace Settings

variable {s : Settings} {text : String}

theorem validate_eq_ok_iff :
    s.validate = .ok () ↔ s.aliasPrefix ≠ "" ∧ IsWord s.aliasPrefix := by
  unfold validate
  rw [IsWord, ← List.all_eq_true, Ne, ← String.isEmpty_iff]
  split
  · next h => simp [h]
  · next h =>
    split
    · next h' => simp [h, h']
    · next h' => simp [h']

theorem validate_of_ofText (h : ofText text = .ok s) : s.validate = .ok () := by
  unfold ofText at h
  split at h
  · cases h
  · split at h
    · cases h
    · next hvalid =>
      obtain rfl := Except.ok.inj h
      exact hvalid

end Settings

/-- Every source and every output column of a query has a label, and all labels have a property. -/
structure Query.EveryLabel (P : String → Prop) (q : Query) : Prop where
  sources : ∀ item ∈ q.sources, ∃ label, item.label = some label ∧ P label
  outputs : ∀ c ∈ q.outputs, ∃ label, c.label = some label ∧ P label

namespace Query.EveryLabel

variable {P Q : String → Prop} {q q' : Query}

theorem imp (h : q.EveryLabel P) (hPQ : ∀ label, P label → Q label) : q.EveryLabel Q := by
  constructor
  · intro item hitem
    obtain ⟨label, hlabel, hP⟩ := h.sources item hitem
    exact ⟨label, hlabel, hPQ label hP⟩
  · intro c hc
    obtain ⟨label, hlabel, hP⟩ := h.outputs c hc
    exact ⟨label, hlabel, hPQ label hP⟩

theorem congr_iff (houtputs : q'.outputs = q.outputs) (hsources : q'.sources = q.sources) :
    q'.EveryLabel P ↔ q.EveryLabel P := by
  constructor
  · rintro ⟨hs, ho⟩
    exact ⟨hsources ▸ hs, houtputs ▸ ho⟩
  · rintro ⟨hs, ho⟩
    exact ⟨hsources.symm ▸ hs, houtputs.symm ▸ ho⟩

end Query.EveryLabel

theorem exists_candidate_isWord (table column : String) (k : Nat) :
    ∃ x, candidate (outputName table column) k = table ++ x ∧ IsWord x := by
  have hplain : IsWord ("_" ++ plainName column) :=
    isWord_append_iff.mpr ⟨isWord_underscore, isWord_plainName column⟩
  rw [outputName_eq]
  cases k with
  | zero => exact ⟨"_" ++ plainName column, rfl, hplain⟩
  | succ k =>
    have hnumber : IsWord ("_" ++ toString (k + 2)) :=
      isWord_append_iff.mpr ⟨isWord_underscore, isWord_toString (k + 2)⟩
    refine ⟨"_" ++ plainName column ++ ("_" ++ toString (k + 2)), ?_,
      isWord_append_iff.mpr ⟨hplain, hnumber⟩⟩
    show table ++ ("_" ++ plainName column) ++ "_" ++ toString (k + 2) = _
    simp only [String.append_assoc]

namespace Progress

variable [SqlReader] {t : TriplesMap} {s : Settings} {n : Nat} {p : Progress}

theorem Reached.everyLabel (h : p.Reached t s n) :
    p.query.EveryLabel fun label => ∃ x, label = s.aliasPrefix ++ x ∧ IsWord x := by
  constructor
  · intro item hitem
    have hlabel : item.label ∈ p.query.sources.map (·.label) := List.mem_map_of_mem hitem
    rw [h.map_label_sources] at hlabel
    obtain ⟨label, hmem, heq⟩ := List.mem_map.mp hlabel
    refine ⟨label, heq.symm, ?_⟩
    rcases List.mem_cons.mp hmem with rfl | hjoin
    · exact ⟨toString 1, rfl, isWord_toString 1⟩
    · obtain ⟨j, -, rfl⟩ := List.mem_map.mp hjoin
      exact ⟨toString (j + 2), rfl, isWord_toString (j + 2)⟩
  · intro c hc
    obtain ⟨k, hlabel, -⟩ := h.exists_label hc
    obtain ⟨m, htable⟩ := h.exists_sourceName hc
    obtain ⟨x, hname, hx⟩ := exists_candidate_isWord c.table c.column k
    refine ⟨_, hlabel, toString m ++ x, ?_, isWord_append_iff.mpr ⟨isWord_toString m, hx⟩⟩
    rw [hname, htable, sourceName, String.append_assoc]

/-- Under a prefix that is a word, labels are words; they are identifiers if the prefix does not
begin with a digit, and otherwise not even the label of the base is one. -/
theorem Reached.isIdentifier_iff (h : p.Reached t s n) (hs : s.validate = .ok ()) :
    p.query.EveryLabel IsWord
    ∧ (p.query.EveryLabel IsIdentifier ↔ ∀ c ∈ s.aliasPrefix.toList.head?, c.isDigit = false) := by
  obtain ⟨hne, hbegins⟩ := validate_eq_ok_iff.mp hs
  have hwords : ∀ label x, label = s.aliasPrefix ++ x ∧ IsWord x → IsWord label := by
    rintro _ x ⟨rfl, hx⟩
    exact isWord_append_iff.mpr ⟨hbegins, hx⟩
  refine ⟨h.everyLabel.imp fun label ⟨x, hx⟩ => hwords label x hx, fun hall => ?_, fun hdigit => ?_⟩
  · obtain ⟨source, -, hbase⟩ := h.base
    obtain ⟨label, hlabel, hidentifier⟩ := hall.sources _ (List.mem_of_getElem? hbase)
    obtain rfl := Option.some.inj hlabel
    exact (isIdentifier_append_iff hne (hwords _ _ ⟨rfl, isWord_toString 1⟩)).mp hidentifier
  · refine h.everyLabel.imp ?_
    rintro _ ⟨x, rfl, hx⟩
    exact (isIdentifier_append_iff hne (hwords _ x ⟨rfl, hx⟩)).mpr hdigit

end Progress

namespace TriplesMap

section reader

variable [SqlReader]

theorem labels_of_unfold {t : TriplesMap} {s : Settings} {subject : Option String} {u : Unfolded}
    (hs : s.validate = .ok ()) (h : (t.unfold s subject).value = .ok (some u)) :
    u.query.EveryLabel IsWord
    ∧ (u.query.EveryLabel IsIdentifier ↔ ∀ c ∈ s.aliasPrefix.toList.head?, c.isDigit = false) := by
  obtain ⟨p, hp, houtputs, hsources, -⟩ := unfold_eq_some h
  rw [Query.EveryLabel.congr_iff houtputs hsources, Query.EveryLabel.congr_iff houtputs hsources]
  exact (reached_of_unfoldAll hp).isIdentifier_iff hs

/-- Under settings that are read from a text, the labels in the query of a rule and in that of its
subject are words, whatever the columns are and whatever is done about names that are in use. They
are identifiers exactly if the prefix does not begin with a digit. -/
theorem identifiers_of_unfold {text : String} {s : Settings} (hs : Settings.ofText text = .ok s)
    (t : TriplesMap) :
    (∀ (subject : Option String) (u : Unfolded), (t.unfold s subject).value = .ok (some u) →
      u.query.EveryLabel IsWord
      ∧ (u.query.EveryLabel IsIdentifier ↔ ∀ c ∈ s.aliasPrefix.toList.head?, c.isDigit = false))
    ∧ ∀ u : Unfolded, (t.unfoldSubject s).value = .ok u →
      u.query.EveryLabel IsWord
      ∧ (u.query.EveryLabel IsIdentifier
        ↔ ∀ c ∈ s.aliasPrefix.toList.head?, c.isDigit = false) := by
  have hvalid := validate_of_ofText hs
  constructor
  · intro subject u h
    exact labels_of_unfold hvalid h
  · intro u h
    obtain ⟨p, hp, rfl⟩ := unfoldSubject_eq_ok_iff.mp h
    exact (Progress.reached_addBase hp).isIdentifier_iff hvalid

end reader

theorem identifiers_numberedRule :
    Settings.ofText "[unfold]\nalias_prefix = \"_1\"\n" = .ok { aliasPrefix := "_1" }
    ∧ (∃ u, (numberedRule.unfold { aliasPrefix := "_1" } none).value = .ok (some u)
      ∧ u.query.outputs.map (·.label) = [some "_11_2_id", some "_11_2_id_2", some "_12_id"]
      ∧ u.query.EveryLabel IsIdentifier)
    ∧ ∃ u, (numberedRule.unfoldSubject { aliasPrefix := "_1" }).value = .ok u
      ∧ u.query.EveryLabel IsIdentifier := by
  have htext : Settings.ofText "[unfold]\nalias_prefix = \"_1\"\n"
      = .ok { aliasPrefix := "_1" } := by decide +kernel
  obtain ⟨hrule, hsubject⟩ := identifiers_of_unfold htext numberedRule
  have hall : (numberedRule.unfold { aliasPrefix := "_1" } none).value.toOption.join.map
      (fun u => u.query.outputs.map (·.label))
        = some [some "_11_2_id", some "_11_2_id_2", some "_12_id"] := by decide +kernel
  have hbase : (numberedRule.unfoldSubject { aliasPrefix := "_1" }).value.map
      (fun u => u.query.outputs.map (·.label)) = .ok [some "_11_2_id"] := by rfl
  have hdigit : ∀ c ∈ "_1".toList.head?, c.isDigit = false := by
    intro c hc
    obtain rfl : '_' = c := Option.some.inj hc
    rfl
  obtain ⟨u, hu, hlabels⟩ := exists_of_map_eq_some hall
  obtain ⟨v, hv, -⟩ := map_eq_ok_iff.mp hbase
  exact ⟨htext, ⟨u, hu, hlabels, (hrule none u hu).2.mpr hdigit⟩,
    v, hv, (hsubject v hv).2.mpr hdigit⟩

/-- A prefix of one digit is accepted, and then labels begin with it. -/
theorem not_forall_identifiers :
    ¬ ∀ (text : String) (s : Settings), Settings.ofText text = .ok s →
      ∀ (t : TriplesMap) (subject : Option String) (u : Unfolded),
        (t.unfold s subject).value = .ok (some u) → u.query.EveryLabel IsIdentifier := by
  intro h
  have htext : Settings.ofText "[unfold]\nalias_prefix = \"1\"\n"
      = .ok { aliasPrefix := "1" } := by decide +kernel
  have hall : (numberedRule.unfold { aliasPrefix := "1" } none).value.toOption.join.map
      (fun u => u.query.outputs.map (·.label))
        = some [some "11_2_id", some "11_2_id_2", some "12_id"] := by decide +kernel
  obtain ⟨u, hu, -⟩ := exists_of_map_eq_some hall
  have hdigit := (labels_of_unfold (validate_of_ofText htext) hu).2.mp (h _ _ htext _ none u hu)
  exact absurd (hdigit '1' rfl) (by decide)

end TriplesMap

end TriplesSql
