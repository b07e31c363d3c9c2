import Mathlib.Data.List.Chain
import TriplesSql.Proofs.Query.Reading
import TriplesSql.Query.Basic

/-!
# Tokens in front of each other

A text that is put together from the texts of tokens is read as these tokens, if each token that
could go on has one behind it that can not be a part of it. This is so in all conditions, output
columns and tables of a query.
-/

namespace TriplesSql

variable {d : Dialect} {t : Token} {ts ts' : List Token}

namespace Token

/-- Whether the text of a token could go on in a text behind it. -/
def isSolid : Token → Bool
  | .keyword _ | .name _ | .qualified _ _ | .integer _ | .string _ | .boolean _ => true
  | _ => false

def mark? : Token → Option Char
  | .comma => some ','
  | .dot => some '.'
  | .star => some '*'
  | .lparen => some '('
  | .rparen => some ')'
  | .equals => some '='
  | .space => some ' '
  | .newline => some '\n'
  | _ => none

/-- A token that is not text as it stands, nor a string with a backslash where that escapes. -/
def Readable (d : Dialect) : Token → Prop
  | .string s => d = .mysql → '\\' ∉ s.toList
  | .verbatim _ => False
  | _ => True

theorem toList_render_of_mark? {c : Char} (ht : t.mark? = some c) :
    (t.render d).toList = [c] := by
  cases t <;> cases ht <;> simp [render]

theorem apart_of_mark? {c : Char} (ht : t.mark? = some c) (cs : List Char) :
    d.Apart (c :: cs) := by
  intro c' hc'
  cases hc'
  cases t <;> cases ht <;> cases d <;> decide

theorem reads_of_mark? {c : Char} {rest : List Char} (ht : t.mark? = some c) :
    d.Reads [c] (t.units d) rest := by
  cases t with
  | space => exact Dialect.reads_blank (.inl (Option.some.inj ht).symm)
  | newline => exact Dialect.reads_blank (.inr (Option.some.inj ht).symm)
  | comma | dot | star | lparen | rparen | equals => cases ht; exact Dialect.reads_mark rfl
  | keyword | indent | name | qualified | integer | string | boolean | verbatim => cases ht

theorem reads_render {rest : List Char} (ht : t.Readable d)
    (hrest : t.isSolid = true → d.Apart rest) :
    d.Reads (t.render d).toList (t.units d) rest := by
  cases t with
  | comma | dot | star | lparen | rparen | equals | space | newline =>
    rw [toList_render_of_mark? rfl]
    exact reads_of_mark? rfl
  | keyword k => exact Dialect.reads_keyword k (hrest rfl)
  | indent depth =>
    rw [render, String.toList_ofList]
    exact Dialect.reads_blanks (2 * depth)
  | name s => exact Dialect.reads_name s (hrest rfl)
  | qualified schema s =>
    have hs := Dialect.reads_name s (hrest rfl)
    cases schema with
    | none => exact hs
    | some schema =>
      have hdot := (reads_of_mark? (t := .dot) rfl).append hs
      have happart : d.Apart ('.' :: ((d.quoteName s).toList ++ rest)) :=
        apart_of_mark? (t := .dot) rfl _
      have hschema := Dialect.reads_name schema happart
      rw [render, String.toList_append, String.toList_append, List.append_assoc]
      exact hschema.append hdot
  | integer n => exact Dialect.reads_integer n (hrest rfl)
  | string s => exact Dialect.reads_string ht (hrest rfl)
  | boolean b => exact Dialect.reads_boolean b (hrest rfl)
  | verbatim s => cases ht

/-- A list in which no token can be taken for a part of the one before it. -/
structure Spaced (ts : List Token) : Prop where
  written : ∀ s, .verbatim s ∉ ts
  chain : ts.IsChain fun t t' => t.isSolid = true → t'.mark?.isSome = true

structure Detached (ts : List Token) : Prop where
  spaced : Spaced ts
  start : ∀ t ∈ ts.head?, t.mark?.isSome = true

theorem isSolid_of_mark? (ht : t.mark?.isSome = true) : t.isSolid = false := by
  cases t <;> first | rfl | cases ht

theorem Spaced.nil : Spaced [] := ⟨by simp, .nil⟩

theorem Detached.nil : Detached [] := ⟨.nil, by simp⟩

theorem Spaced.append (h : Spaced ts) (h' : Detached ts') : Spaced (ts ++ ts') where
  written s hs := (List.mem_append.mp hs).elim (h.written s) (h'.spaced.written s)
  chain := List.isChain_append.mpr ⟨h.chain, h'.spaced.chain, fun _ _ t ht _ => h'.start t ht⟩

theorem Detached.append (h : Detached ts) (h' : Detached ts') : Detached (ts ++ ts') where
  spaced := h.spaced.append h'
  start := by
    cases ts with
    | nil => exact h'.start
    | cons t ts => exact h.start

theorem Spaced.cons (ht : ∀ s, t ≠ .verbatim s) (h : Detached ts) : Spaced (t :: ts) where
  written s hs := (List.mem_cons.mp hs).elim (fun hs => ht s hs.symm) (h.spaced.written s)
  chain := List.isChain_cons.mpr ⟨fun t' ht' _ => h.start t' ht', h.spaced.chain⟩

theorem Spaced.cons_indent (depth : Nat) (h : Spaced ts) : Spaced (.indent depth :: ts) where
  written s hs := (List.mem_cons.mp hs).elim nofun (h.written s)
  chain := List.isChain_cons.mpr ⟨nofun, h.chain⟩

theorem Detached.cons (ht : t.mark?.isSome = true) (h : Spaced ts) : Detached (t :: ts) where
  spaced := by
    constructor
    · intro s hs
      rcases List.mem_cons.mp hs with rfl | hs
      · cases ht
      · exact h.written s hs
    · refine List.isChain_cons.mpr ⟨fun _ _ hsolid => ?_, h.chain⟩
      rw [isSolid_of_mark? ht] at hsolid
      cases hsolid
  start t' ht' := Option.some.inj ht' ▸ ht

theorem Detached.clause (k : Keyword) (ht : t.mark?.isSome = true) (h : Spaced ts) :
    Detached ([t, .keyword k, .space] ++ ts) :=
  .cons ht (.cons nofun (.cons rfl h))

theorem Detached.apart (h : Detached ts) : d.Apart (renderAll d ts).toList := by
  cases ts with
  | nil => exact nofun
  | cons t ts =>
    obtain ⟨c, hc⟩ := Option.isSome_iff_exists.mp (h.start t rfl)
    have htext : (renderAll d (t :: ts)).toList = c :: (renderAll d ts).toList := by
      simp [renderAll, toList_render_of_mark? hc]
    rw [htext]
    exact apart_of_mark? hc _

/-- The induction is on the list; what is read of a token depends on the first one behind it. -/
theorem reads_renderAll (hread : ∀ t ∈ ts, t.Readable d) (hts : Spaced ts) :
    d.Reads (renderAll d ts).toList (ts.flatMap (units d)) [] := by
  induction ts with
  | nil => exact Dialect.Reads.nil
  | cons t ts ih =>
    have hchain := List.isChain_cons.mp hts.chain
    have hrest : Spaced ts := ⟨fun s hs => hts.written s (List.mem_cons_of_mem t hs), hchain.2⟩
    have happart (hsolid : t.isSolid = true) : d.Apart ((renderAll d ts).toList ++ []) := by
      have hdetached : Detached ts := ⟨hrest, fun t' ht' => hchain.1 t' ht' hsolid⟩
      rw [List.append_nil]
      exact hdetached.apart
    have ht := reads_render (hread t List.mem_cons_self) happart
    have htext : (renderAll d (t :: ts)).toList
        = (t.render d).toList ++ (renderAll d ts).toList := by
      simp [renderAll]
    rw [htext]
    exact ht.append (ih (fun t' ht' => hread t' (List.mem_cons_of_mem t ht')) hrest)

end Token

open Token

-- In what follows `rfl` shows that a token is a mark, and `nofun` that it is not verbatim.

theorem Condition.spaced_tokens (c : Condition) : Spaced c.tokens := by
  induction c with
  | column table name =>
    cases table with
    | none => exact .cons nofun .nil
    | some table => exact .cons nofun (.cons rfl (.cons nofun .nil))
  | literal l => cases l <;> exact .cons nofun .nil
  | binary op l r ihl ihr =>
    have hop : Detached ([.space, op.token, .space] ++ r.tokens) := by
      cases op with
      | equals => exact .cons rfl (Detached.cons rfl (Detached.cons rfl ihr).spaced).spaced
      | and => exact .clause .and rfl ihr
    rw [tokens, List.append_assoc]
    exact ihl.append hop
  | paren inner ih => exact (Detached.cons rfl (ih.append (.cons rfl .nil))).spaced

theorem Condition.spaced_searchTokens (d : Dialect) (c : Condition) :
    Spaced (c.searchTokens d) := by
  unfold searchTokens
  split
  · split <;> exact spaced_tokens _
  · exact spaced_tokens c

theorem OutputColumn.detached_labelTokens (label : Option String) :
    Detached (labelTokens label) := by
  cases label with
  | none => exact .nil
  | some label => exact .clause .as rfl (.cons nofun .nil)

theorem OutputColumn.spaced_tokens (c : OutputColumn) : Spaced c.tokens :=
  .cons nofun (.cons rfl (.cons nofun (detached_labelTokens c.label)))

theorem Query.detached_outputTokens (cs : List OutputColumn) : Detached (outputTokens cs) := by
  fun_induction outputTokens cs with
  | case1 => exact .cons rfl (Detached.cons rfl .nil).spaced
  | case2 c => exact .cons rfl (.cons_indent 1 c.spaced_tokens)
  | case3 c cs _ ih =>
    have hcomma : Detached (.comma :: outputTokens cs) := .cons rfl ih.spaced
    simp only [List.cons_append, List.nil_append, List.append_assoc]
    exact .cons rfl (.cons_indent 1 (c.spaced_tokens.append hcomma))

theorem QuerySource.spaced_tokens (d : Dialect) {s : QuerySource}
    (h : ∃ name, s.source = .table name) : Spaced (s.tokens d) := by
  obtain ⟨source, label, joined, on⟩ := s
  obtain ⟨name, rfl⟩ := h
  have hsource (clause : List Token) (hclause : Detached clause) :
      Spaced ((RowSource.table name).tokens ++ (OutputColumn.labelTokens label ++ clause)) :=
    .cons nofun ((OutputColumn.detached_labelTokens label).append hclause)
  have hjoin (clause : List Token) (hclause : Detached clause) :
      Spaced ((if joined then [.keyword .left, .space, .keyword .join, .space] else [])
        ++ (RowSource.table name).tokens ++ OutputColumn.labelTokens label ++ clause) := by
    rw [List.append_assoc, List.append_assoc]
    cases joined with
    | false => exact hsource clause hclause
    | true => exact .cons nofun (.cons rfl (.cons nofun (.cons rfl (hsource clause hclause))))
  cases on with
  | none => exact hjoin [] .nil
  | some c => exact hjoin _ (.clause .on rfl (c.spaced_searchTokens d))

theorem Query.detached_sourceTokens (d : Dialect) {ss : List QuerySource}
    (h : ∀ s ∈ ss, ∃ name, s.source = .table name) : Detached (sourceTokens d ss) := by
  have hline (s : QuerySource) (hs : s ∈ ss) : Detached (.newline :: s.tokens d) :=
    .cons rfl (s.spaced_tokens d (h s hs))
  have hlines (ss' : List QuerySource) (hss : ss' ⊆ ss) :
      Detached (ss'.flatMap fun s => .newline :: s.tokens d) := by
    induction ss' with
    | nil => exact .nil
    | cons s ss' ih =>
      have hs := List.cons_subset.mp hss
      exact (hline s hs.1).append (ih hs.2)
  cases ss with
  | nil => exact .nil
  | cons s ss =>
    have hbase := (s.spaced_tokens d (h s List.mem_cons_self)).append
      (hlines ss (List.subset_cons_self s ss))
    simp only [sourceTokens, List.append_assoc]
    exact .clause .from rfl hbase

end TriplesSql
