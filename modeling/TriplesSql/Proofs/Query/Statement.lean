import TriplesSql.Proofs.Query.Spacing

/-!
# Written statements are read back

The text of a statement is read as the tokens it was written from, whatever its names and values
are. So these have no influence on which kinds of tokens the text is made of.
-/

namespace TriplesSql

open Token

variable {d : Dialect} {ts ts' : List Token}

def Token.shape : Token → Token
  | .name _ => .name ""
  | .qualified schema _ => .qualified (schema.map fun _ => "") ""
  | .integer _ => .integer 0
  | .string _ => .string ""
  | .boolean _ => .boolean true
  | t => t

def Literal.shape : Literal → Literal
  | .integer _ => .integer 0
  | .string _ => .string ""
  | .boolean _ => .boolean true

def Condition.shape : Condition → Condition
  | .column table _ => .column (table.map fun _ => "") ""
  | .literal l => .literal l.shape
  | .binary op l r => .binary op l.shape r.shape
  | .paren inner => .paren inner.shape

def OutputColumn.shape (c : OutputColumn) : OutputColumn := ⟨"", "", c.label.map fun _ => ""⟩

def RowSource.shape : RowSource → RowSource
  | .table t => .table ⟨t.schema.map fun _ => "", ""⟩
  | source => source

def QuerySource.shape (s : QuerySource) : QuerySource :=
  ⟨s.source.shape, s.label.map fun _ => "", s.joined, s.on.map Condition.shape⟩

def Query.shape (q : Query) : Query :=
  ⟨q.outputs.map OutputColumn.shape, q.sources.map QuerySource.shape,
    q.filter.map Condition.shape, q.dialect⟩

theorem Token.map_shape_units (d : Dialect) (t : Token) :
    (t.shape.units d).map shape = (t.units d).map shape := by
  cases t with
  | qualified schema s => cases schema <;> rfl
  | boolean b => cases d <;> rfl
  | _ => rfl

theorem Token.map_shape_flatMap_units (h : ts.map shape = ts'.map shape) :
    (ts.flatMap (units d)).map shape = (ts'.flatMap (units d)).map shape := by
  have hshape (ts : List Token) :
      (ts.flatMap (units d)).map shape = (ts.map shape).flatMap fun t => (t.units d).map shape := by
    simp only [List.map_flatMap, List.flatMap_map, map_shape_units]
  rw [hshape, h, ← hshape]

theorem Condition.map_shape_tokens (c : Condition) :
    c.shape.tokens.map Token.shape = c.tokens.map Token.shape := by
  induction c with
  | column table name => cases table <;> rfl
  | literal l => cases l <;> rfl
  | binary op l r ihl ihr => simp only [shape, tokens, List.map_append, ihl, ihr]
  | paren inner ih => simp only [shape, tokens, List.map_append, List.map_cons, ih]

theorem Condition.map_shape_searchTokens (d : Dialect) (c : Condition) :
    (c.shape.searchTokens d).map Token.shape = (c.searchTokens d).map Token.shape := by
  have htokens := c.map_shape_tokens
  cases c with
  | literal l =>
    cases l with
    | boolean b => cases d <;> rfl
    | integer | string => exact htokens
  | column | binary | paren => exact htokens

theorem OutputColumn.map_shape_tokens (c : OutputColumn) :
    c.shape.tokens.map Token.shape = c.tokens.map Token.shape := by
  obtain ⟨table, column, label⟩ := c
  cases label <;> rfl

theorem Query.map_shape_outputTokens (cs : List OutputColumn) :
    (outputTokens (cs.map OutputColumn.shape)).map Token.shape
      = (outputTokens cs).map Token.shape := by
  fun_induction outputTokens cs with
  | case1 => rfl
  | case2 c => simp [outputTokens, c.map_shape_tokens]
  | case3 c cs hcs ih =>
    have hne : cs.map OutputColumn.shape = [] → False := by simpa using hcs
    rw [List.map_cons, outputTokens.eq_3 _ _ hne]
    simp only [List.map_append, c.map_shape_tokens, ih]

theorem QuerySource.map_shape_tokens (d : Dialect) (s : QuerySource) :
    (s.shape.tokens d).map Token.shape = (s.tokens d).map Token.shape := by
  obtain ⟨source, label, joined, on⟩ := s
  have hsource : source.shape.tokens.map Token.shape = source.tokens.map Token.shape := by
    cases source with
    | table t =>
      obtain ⟨schema, table⟩ := t
      cases schema <;> rfl
    | query | text => rfl
  have hlabel : (OutputColumn.labelTokens (label.map fun _ => "")).map Token.shape
      = (OutputColumn.labelTokens label).map Token.shape := by
    cases label <;> rfl
  cases on with
  | none =>
    simp only [shape, tokens, List.map_append, Option.map_none, hsource, hlabel]
    rfl
  | some c =>
    simp only [shape, tokens, List.map_append, Option.map_some, hsource, hlabel,
      c.map_shape_searchTokens]
    rfl

theorem Query.map_shape_sourceTokens (d : Dialect) (ss : List QuerySource) :
    (sourceTokens d (ss.map QuerySource.shape)).map Token.shape
      = (sourceTokens d ss).map Token.shape := by
  cases ss with
  | nil => rfl
  | cons s ss =>
    simp only [List.map_cons, sourceTokens, List.map_append, List.map_flatMap, List.flatMap_map,
      s.map_shape_tokens, QuerySource.map_shape_tokens]

theorem Query.map_shape_tokens (d : Dialect) (q : Query) :
    (q.shape.tokens d).map Token.shape = (q.tokens d).map Token.shape := by
  obtain ⟨outputs, sources, filter, dialect⟩ := q
  cases filter with
  | none =>
    simp only [shape, tokens, List.map_append, List.map_cons, Option.map_none,
      map_shape_outputTokens, map_shape_sourceTokens]
  | some c =>
    simp only [shape, tokens, List.map_append, List.map_cons, Option.map_some,
      map_shape_outputTokens, map_shape_sourceTokens, c.map_shape_searchTokens]

/-- All row sources are tables, and no string has a backslash where that escapes. -/
structure Query.Plain (d : Dialect) (q : Query) : Prop where
  tables : ∀ s ∈ q.sources, ∃ name, s.source = .table name
  strings : d = .mysql → ∀ s, .string s ∈ q.tokens d → '\\' ∉ s.toList

theorem Query.Plain.spaced_tokens {q : Query} (h : q.Plain d) : Spaced (q.tokens d) := by
  have houtputs := Query.detached_outputTokens q.outputs
  have hsources := Query.detached_sourceTokens d h.tables
  have hselect := (Spaced.cons (t := .keyword .select) nofun houtputs).append hsources
  unfold tokens
  cases q.filter with
  | none => exact hselect.append .nil
  | some c => exact hselect.append (.clause .where rfl (c.spaced_searchTokens d))

theorem Query.Plain.readable {q : Query} (h : q.Plain d) : ∀ t ∈ q.tokens d, t.Readable d := by
  intro t ht
  cases t with
  | string s => exact fun hd => h.strings hd s ht
  | verbatim s => exact h.spaced_tokens.written s ht
  | _ => trivial

theorem Query.Plain.readTokens? {q : Query} (h : q.Plain d) :
    d.readTokens? (q.render d).toList = some ((q.tokens d).flatMap (units d)) := by
  have hread := reads_renderAll h.readable h.spaced_tokens
  rw [Dialect.Reads, List.append_nil] at hread
  rw [render, hread, Dialect.readTokens?]
  simp

theorem Query.readTokens?_render {q : Query} (h : q.Plain d) :
    d.readTokens? (q.render d).toList = some ((q.tokens d).flatMap (units d))
      ∧ ∀ q' : Query, q'.Plain d → q'.shape = q.shape →
        (d.readTokens? (q'.render d).toList).map (List.map Token.shape)
          = (d.readTokens? (q.render d).toList).map (List.map Token.shape) := by
  refine ⟨h.readTokens?, fun q' h' hshape => ?_⟩
  have htokens : (q'.tokens d).map Token.shape = (q.tokens d).map Token.shape := by
    rw [← Query.map_shape_tokens d q', hshape, Query.map_shape_tokens d q]
  rw [h.readTokens?, h'.readTokens?, Option.map_some, Option.map_some,
    Token.map_shape_flatMap_units htokens]

def hostileQuery : Query where
  outputs := [⟨"t`", "a\"b", some "x` -- "⟩]
  sources := [.base (.table ⟨some "d`.`o", "it's"⟩) "t`",
    .leftJoin (.table ⟨none, ""⟩) "\\" (.truth true)]
  filter := some (.both (.eq (.columnOf "t`" "n") (.literal (.integer (-7))))
    (.eq (.column none "'") (.literal (.string "' OR 1=1 -- "))))
  dialect := .mysql

theorem Query.readTokens?_render_hostileQuery :
    Dialect.readTokens? .mysql (hostileQuery.render .mysql).toList
        = some [.keyword .select, .name "t`", .dot, .name "a\"b", .keyword .as, .name "x` -- ",
          .keyword .from, .name "d`.`o", .dot, .name "it's", .keyword .as, .name "t`",
          .keyword .left, .keyword .join, .name "", .keyword .as, .name "\\", .keyword .on,
          .integer 1, .keyword .where, .name "t`", .dot, .name "n", .equals, .integer (-7),
          .keyword .and, .name "'", .equals, .string "' OR 1=1 -- "]
      ∧ (Dialect.readTokens? .mysql (hostileQuery.shape.render .mysql).toList).map
          (List.map Token.shape)
        = (Dialect.readTokens? .mysql (hostileQuery.render .mysql).toList).map
          (List.map Token.shape) := by
  have hstrings : ∀ q ∈ [hostileQuery, hostileQuery.shape], ((q.tokens .mysql).all fun
      | .string s => decide ('\\' ∉ s.toList)
      | _ => true) = true := by
    decide
  have hplain : ∀ q ∈ [hostileQuery, hostileQuery.shape], q.Plain .mysql := by
    intro q hq
    constructor
    · revert q
      simp [hostileQuery, shape, QuerySource.base, QuerySource.leftJoin, QuerySource.shape,
        RowSource.shape]
    · intro _ s hs
      exact of_decide_eq_true (List.all_eq_true.mp (hstrings q hq) (.string s) hs)
  have h := hplain hostileQuery (by simp)
  have h' := hplain hostileQuery.shape (by simp)
  have hread := readTokens?_render h
  exact ⟨hread.1.trans rfl, hread.2 hostileQuery.shape h' rfl⟩

end TriplesSql
