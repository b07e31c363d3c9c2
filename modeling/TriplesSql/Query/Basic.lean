import TriplesSql.Query.Source

namespace TriplesSql

structure OutputColumn where
  table : String
  column : String
  label : Option String
  deriving DecidableEq, Repr

namespace OutputColumn

def sameColumn (a b : OutputColumn) : Bool := a.table = b.table && a.column = b.column

def labelTokens : Option String → List Token
  | none => []
  | some label => [.space, .keyword .as, .space, .name label]

def tokens (c : OutputColumn) : List Token :=
  [.name c.table, .dot, .name c.column] ++ labelTokens c.label

end OutputColumn

structure QuerySource where
  source : RowSource
  label : Option String
  joined : Bool
  on : Option Condition
  deriving Repr

namespace QuerySource

def base (source : RowSource) (label : String) : QuerySource := ⟨source, some label, false, none⟩

def leftJoin (source : RowSource) (label : String) (on : Condition) : QuerySource :=
  ⟨source, some label, true, some on⟩

def tokens (d : Dialect) (s : QuerySource) : List Token :=
  (if s.joined then [.keyword .left, .space, .keyword .join, .space] else [])
    ++ s.source.tokens ++ OutputColumn.labelTokens s.label
    ++ match s.on with
      | none => []
      | some c => [.space, .keyword .on, .space] ++ c.searchTokens d

end QuerySource

structure Query where
  outputs : List OutputColumn
  sources : List QuerySource
  filter : Option Condition
  dialect : Dialect
  deriving Repr

namespace Query

def empty (d : Dialect) : Query := ⟨[], [], none, d⟩

/-- Adds an output column unless an equal one is there. -/
def addOutput (q : Query) (c : OutputColumn) : Query :=
  if c ∈ q.outputs then q else { q with outputs := q.outputs ++ [c] }

def outputNamed? (q : Query) (label : String) : Option OutputColumn :=
  q.outputs.find? fun c => c.label = some label

def addSource (q : Query) (s : QuerySource) : Query := { q with sources := q.sources ++ [s] }

def restrict (q : Query) (c : Condition) : Query :=
  { q with filter := some (match q.filter with
    | none => c
    | some before => .both before c) }

def base? (q : Query) : Option QuerySource := q.sources.head?

def joins (q : Query) : List QuerySource := q.sources.filter (·.joined)

theorem outputs_addOutput (q : Query) (c : OutputColumn) :
    (q.addOutput c).outputs = if c ∈ q.outputs then q.outputs else q.outputs ++ [c] := by
  unfold addOutput
  split <;> rfl

@[simp]
theorem mem_outputs_addOutput {q : Query} {c d : OutputColumn} :
    c ∈ (q.addOutput d).outputs ↔ c ∈ q.outputs ∨ c = d := by
  rw [outputs_addOutput]
  by_cases hd : d ∈ q.outputs
  · simp only [if_pos hd]
    exact ⟨Or.inl, fun h => h.elim id fun he => he ▸ hd⟩
  · rw [if_neg hd, List.mem_append, List.mem_singleton]

@[simp]
theorem sources_addOutput (q : Query) (c : OutputColumn) : (q.addOutput c).sources = q.sources := by
  unfold addOutput
  split <;> rfl

@[simp]
theorem filter_addOutput (q : Query) (c : OutputColumn) : (q.addOutput c).filter = q.filter := by
  unfold addOutput
  split <;> rfl

@[simp]
theorem dialect_addOutput (q : Query) (c : OutputColumn) : (q.addOutput c).dialect = q.dialect := by
  unfold addOutput
  split <;> rfl

/-- The tokens of the output columns behind the first keyword: a star for none, and otherwise one
column a line. -/
def outputTokens : List OutputColumn → List Token
  | [] => [.space, .star]
  | [c] => [.newline, .indent 1] ++ c.tokens
  | c :: cs => [.newline, .indent 1] ++ c.tokens ++ [.comma] ++ outputTokens cs

def sourceTokens (d : Dialect) : List QuerySource → List Token
  | [] => []
  | s :: ss => [.newline, .keyword .from, .space] ++ s.tokens d
      ++ ss.flatMap fun s => .newline :: s.tokens d

def tokens (d : Dialect) (q : Query) : List Token :=
  .keyword .select :: outputTokens q.outputs ++ sourceTokens d q.sources
    ++ match q.filter with
      | none => []
      | some c => [.newline, .keyword .where, .space] ++ c.searchTokens d

def render (d : Dialect) (q : Query) : String := Token.renderAll d (q.tokens d)

def sql (q : Query) : String := q.render q.dialect

end Query

end TriplesSql
