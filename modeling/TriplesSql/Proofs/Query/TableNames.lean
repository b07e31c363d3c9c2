import TriplesSql.Proofs.Text.Trimming
import TriplesSql.Query.Source

/-!
# Names of tables are read back

A table name is cut at the first point outside double quotes. A spelling of a name has no such point
and an even number of quotes, so the cut behind a spelled schema is the point that follows it, and
what is read are the names that were spelled.
-/

namespace TriplesSql.TableName

open Text

variable {b b' b'' : Bool} {cs ds : List Char}

def quotesAfter (inQuotes : Bool) (cs : List Char) : Bool :=
  cs.foldl (fun inQuotes c => if c = '"' then !inQuotes else inQuotes) inQuotes

/-- A scan goes through a text and meets no point outside quotes. -/
structure Scans (b : Bool) (cs : List Char) (b' : Bool) : Prop where
  point : splitAtPoint b cs = none
  quotes : quotesAfter b cs = b'

theorem Scans.nil : Scans b [] b := ⟨rfl, rfl⟩

theorem scans_cons_iff {c : Char} : Scans b (c :: cs) b'
    ↔ (c = '.' → b = true) ∧ Scans (if c = '"' then !b else b) cs b' := by
  have hquotes : quotesAfter b (c :: cs) = quotesAfter (if c = '"' then !b else b) cs := rfl
  constructor
  · rintro ⟨hpoint, hb⟩
    rw [splitAtPoint] at hpoint
    split at hpoint
    · cases hpoint
    · next hc => exact ⟨by simpa using hc, Option.map_eq_none_iff.mp hpoint, hquotes ▸ hb⟩
  · rintro ⟨hc, hpoint, hb⟩
    refine ⟨?_, hquotes.trans hb⟩
    rw [splitAtPoint, if_neg (by simpa using hc), hpoint, Option.map_none]

theorem splitAtPoint_append (h : Scans b cs b') (ds : List Char) :
    splitAtPoint b (cs ++ ds)
      = (splitAtPoint b' ds).map fun (front, back) => (cs ++ front, back) := by
  induction cs generalizing b with
  | nil =>
    obtain rfl : b = b' := h.quotes
    simp
  | cons c cs ih =>
    obtain ⟨hc, hrest⟩ := scans_cons_iff.mp h
    rw [List.cons_append, splitAtPoint, if_neg (by simpa using hc), ih hrest, Option.map_map]
    rfl

theorem Scans.append (h : Scans b cs b') (h' : Scans b' ds b'') : Scans b (cs ++ ds) b'' := by
  induction cs generalizing b with
  | nil =>
    obtain rfl : b = b' := h.quotes
    exact h'
  | cons c cs ih =>
    obtain ⟨hc, hrest⟩ := scans_cons_iff.mp h
    exact scans_cons_iff.mpr ⟨hc, ih hrest⟩

theorem scans_plain (hquote : '"' ∉ cs) (hpoint : '.' ∉ cs) : Scans b cs b := by
  induction cs with
  | nil => exact .nil
  | cons c cs ih =>
    obtain ⟨hcq, hquote⟩ := not_or.mp (List.mem_cons.not.mp hquote)
    obtain ⟨hcp, hpoint⟩ := not_or.mp (List.mem_cons.not.mp hpoint)
    rw [scans_cons_iff, if_neg fun hc => hcq hc.symm]
    exact ⟨fun hc => absurd hc.symm hcp, ih hquote hpoint⟩

theorem scans_double (cs : List Char) : Scans true (double '"' cs) true := by
  induction cs with
  | nil => exact .nil
  | cons c cs ih =>
    by_cases hc : c = '"'
    · subst hc
      rw [double, if_pos rfl, scans_cons_iff, if_pos rfl, scans_cons_iff, if_pos rfl]
      exact ⟨by decide, by decide, ih⟩
    · rw [double, if_neg hc, scans_cons_iff, if_neg hc]
      exact ⟨fun _ => rfl, ih⟩

theorem scans_enclose (name : String) : Scans false (enclose '"' '"' name).toList false := by
  have hclose : Scans true ['"'] false := ⟨rfl, rfl⟩
  rw [enclose, String.toList_ofList, List.cons_append, scans_cons_iff]
  exact ⟨by decide, (scans_double name.toList).append hclose⟩

theorem scans_blanks (h : ∀ c ∈ cs, isBlank c = true) : Scans b cs b :=
  scans_plain (fun hm => absurd (h _ hm) (by decide)) fun hm => absurd (h _ hm) (by decide)

theorem scans_spelling {text name : String} (h : Spells text name) :
    Scans false text.toList false := by
  cases h with
  | delimited _ _ _ hbefore hafter =>
    rw [String.toList_append, String.toList_append]
    exact ((scans_blanks hbefore).append (scans_enclose name)).append (scans_blanks hafter)
  | bare _ _ _ hname hbefore hafter =>
    rw [String.toList_append, String.toList_append]
    exact ((scans_blanks hbefore).append (scans_plain hname.quote hname.point)).append
      (scans_blanks hafter)

theorem ofText_eq {text table : String} (h : Spells text table) : ofText text = ⟨none, table⟩ := by
  rw [ofText, (scans_spelling h).point]
  exact congrArg (mk none) (unquote_eq h)

theorem ofText_append {schemaText schema tableText table : String}
    (hschema : Spells schemaText schema) (htable : Spells tableText table) :
    ofText (schemaText ++ "." ++ tableText) = ⟨some schema, table⟩ := by
  have hcut : splitAtPoint false (schemaText ++ "." ++ tableText).toList
      = some (schemaText.toList, tableText.toList) := by
    rw [String.toList_append, String.toList_append, List.append_assoc,
      splitAtPoint_append (scans_spelling hschema)]
    simp [splitAtPoint]
  simp only [ofText, hcut, String.ofList_toList, unquote_eq hschema, unquote_eq htable]

/-- Every spelling of a schema and a table, with a point between them, and every spelling of a table
alone is read as what it spells. So is the text of a table name in a dialect that delimits names by
double quotes. -/
theorem ofText_of_spells :
    (∀ schemaText schema tableText table : String, Spells schemaText schema →
      Spells tableText table → ofText (schemaText ++ "." ++ tableText) = ⟨some schema, table⟩)
    ∧ (∀ text table : String, Spells text table → ofText text = ⟨none, table⟩)
    ∧ ∀ d : Dialect, d = .postgres ∨ d = .duckdb → ∀ n : TableName,
      ofText (Token.renderAll d n.tokens) = n := by
  refine ⟨fun _ _ _ _ => ofText_append, fun _ _ => ofText_eq, ?_⟩
  intro d hd n
  have hquote (name : String) : Spells (d.quoteName name) name := by
    have hdelimiters : d.delimiters = ('"', '"') := by
      rcases hd with rfl | rfl <;> rfl
    rw [Dialect.quoteName, hdelimiters]
    exact spells_enclose name
  obtain ⟨schema, table⟩ := n
  cases schema with
  | none =>
    have htext : Token.renderAll d (tokens ⟨none, table⟩) = d.quoteName table := by
      simp [Token.renderAll, tokens, Token.render]
    rw [htext, ofText_eq (hquote table)]
  | some schema =>
    have htext : Token.renderAll d (tokens ⟨some schema, table⟩)
        = d.quoteName schema ++ "." ++ d.quoteName table := by
      simp [Token.renderAll, tokens, Token.render]
    rw [htext, ofText_append (hquote schema) (hquote table)]

theorem ofText_of_spells_archive :
    Spells " \"a.\"\"b\"\t" "a.\"b" ∧ Spells "\ntable " "table"
      ∧ ofText " \"a.\"\"b\"\t.\ntable " = ⟨some "a.\"b", "table"⟩
      ∧ ofText " \"a.\"\"b\"\t" = ⟨none, "a.\"b"⟩
      ∧ ofText (Token.renderAll .duckdb (tokens ⟨some "", "\"."⟩)) = ⟨some "", "\"."⟩ := by
  have hschema : Spells " \"a.\"\"b\"\t" "a.\"b" :=
    .delimited " " "a.\"b" "\t" (by simp [isBlank]) (by simp [isBlank])
  have hbare : IsBare "table" := by
    constructor <;> simp [isBlank]
  have htable : Spells "\ntable " "table" :=
    .bare "\n" "table" " " hbare (by simp [isBlank]) (by simp [isBlank])
  obtain ⟨hqualified, halone, hwritten⟩ := ofText_of_spells
  exact ⟨hschema, htable, hqualified _ _ _ _ hschema htable, halone _ _ hschema,
    hwritten .duckdb (.inr rfl) ⟨some "", "\"."⟩⟩

end TriplesSql.TableName
