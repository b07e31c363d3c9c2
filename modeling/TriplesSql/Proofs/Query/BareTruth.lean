import TriplesSql.Proofs.Query.Flattening

/-!
# Truth values that stand alone

A dialect that has no truth values writes them as numbers, and a number is no search condition. So a
condition that is nothing but a truth value is written as a comparison there. A truth value in a
conjunction is not, and it may get into one when a filter is put beside another one.
-/

namespace TriplesSql

open Condition

variable {d : Dialect}

namespace Token

def opensClause : Token → Bool
  | .keyword .on | .keyword .where => true
  | _ => false

/-- The conditions of a written statement, each up to the end of its line and without blanks. -/
def clauses : List Token → List (List Token)
  | [] => []
  | t :: ts =>
    if t.opensClause then (ts.takeWhile (· ≠ .newline)).filter (· ≠ .space) :: clauses ts
    else clauses ts

variable {ts rest : List Token}

theorem clauses_append (h : ∀ t ∈ ts, t.opensClause = false) :
    clauses (ts ++ rest) = clauses rest := by
  induction ts with
  | nil => rfl
  | cons t ts ih =>
    obtain ⟨ht, hts⟩ := List.forall_mem_cons.mp h
    rw [List.cons_append, clauses, if_neg (by simp [ht]), ih hts]

def Inline (ts : List Token) : Prop := ∀ t ∈ ts, t.opensClause = false ∧ t ≠ .newline

theorem clauses_clause {t : Token} (ht : t.opensClause = true) (hts : Inline ts)
    (hrest : ∀ t ∈ rest.head?, t = .newline) :
    clauses (t :: (ts ++ rest)) = ts.filter (· ≠ .space) :: clauses rest := by
  have hinside : ∀ t ∈ ts, decide (t ≠ .newline) = true := fun t ht => decide_eq_true (hts t ht).2
  have hend : rest.takeWhile (· ≠ .newline) = [] := by
    cases rest with
    | nil => rfl
    | cons t rest =>
      obtain rfl := hrest t rfl
      rfl
  rw [clauses, if_pos ht, List.takeWhile_append_of_pos hinside, hend, List.append_nil,
    clauses_append fun t ht => (hts t ht).1]

end Token

open Token

theorem Condition.inline_tokens (c : Condition) : Inline c.tokens := by
  induction c with
  | column table name => cases table <;> simp [Inline, tokens, opensClause]
  | literal l => cases l <;> simp [Inline, tokens, Literal.token, opensClause]
  | binary op l r ihl ihr =>
    have hop : Inline [.space, op.token, .space] := by
      cases op <;> simp [Inline, Operator.token, opensClause]
    exact List.forall_mem_append.mpr ⟨List.forall_mem_append.mpr ⟨ihl, hop⟩, ihr⟩
  | paren inner ih =>
    have hparen : ∀ t ∈ [Token.lparen, .rparen], t.opensClause = false ∧ t ≠ .newline := by
      simp [opensClause]
    obtain ⟨hl, hr⟩ := List.forall_mem_cons.mp hparen
    exact List.forall_mem_append.mpr ⟨List.forall_mem_cons.mpr ⟨hl, ih⟩, hr⟩

theorem Condition.inline_searchTokens (d : Dialect) (c : Condition) :
    Inline (c.searchTokens d) := by
  unfold searchTokens
  split
  · split <;> exact inline_tokens _
  · exact inline_tokens c

def Condition.searched (d : Dialect) (c : Condition) : List Token :=
  (c.searchTokens d).filter (· ≠ .space)

theorem Condition.clauses_searchTokens {t : Token} {rest : List Token} (ht : t.opensClause = true)
    (c : Condition) (hrest : ∀ t ∈ rest.head?, t = .newline) :
    clauses ([t, .space] ++ c.searchTokens d ++ rest) = c.searched d :: clauses rest := by
  have hinline : Inline ([.space] ++ c.searchTokens d) :=
    List.forall_mem_append.mpr ⟨by simp [opensClause], c.inline_searchTokens d⟩
  exact clauses_clause ht hinline hrest

namespace Query

theorem opensClause_outputTokens (cs : List OutputColumn) :
    ∀ t ∈ outputTokens cs, t.opensClause = false := by
  have hcolumn (c : OutputColumn) : ∀ t ∈ c.tokens, t.opensClause = false := by
    obtain ⟨table, column, label⟩ := c
    cases label <;> simp [OutputColumn.tokens, OutputColumn.labelTokens, opensClause]
  induction cs with
  | nil => simp [outputTokens, opensClause]
  | cons c cs ih =>
    have hfront : ∀ t ∈ [Token.newline, .indent 1] ++ c.tokens, t.opensClause = false :=
      List.forall_mem_append.mpr ⟨by simp [opensClause], hcolumn c⟩
    cases cs with
    | nil => exact hfront
    | cons c' cs =>
      have hcomma : ∀ t ∈ [Token.comma], t.opensClause = false := by simp [opensClause]
      exact List.forall_mem_append.mpr ⟨List.forall_mem_append.mpr ⟨hfront, hcomma⟩, ih⟩

variable {rest : List Token}

theorem clauses_source (s : QuerySource) (hrest : ∀ t ∈ rest.head?, t = .newline) :
    clauses (s.tokens d ++ rest) = s.on.toList.map (searched d) ++ clauses rest := by
  obtain ⟨source, label, joined, on⟩ := s
  have hjoin : ∀ t ∈ (if joined then [Token.keyword .left, .space, .keyword .join, .space] else []),
      t.opensClause = false := by
    cases joined <;> simp [opensClause]
  have hsource : ∀ t ∈ source.tokens, t.opensClause = false := by
    cases source with
    | table name => simp [RowSource.tokens, TableName.tokens, opensClause]
    | query t => simp [RowSource.tokens, opensClause]
    | text sql => cases hend : Terminator.endsInLineComment sql <;>
        simp [RowSource.tokens, hend, opensClause]
  have hlabel : ∀ t ∈ OutputColumn.labelTokens label, t.opensClause = false := by
    cases label <;> simp [OutputColumn.labelTokens, opensClause]
  rw [QuerySource.tokens, List.append_assoc, List.append_assoc, List.append_assoc,
    clauses_append hjoin, clauses_append hsource, clauses_append hlabel]
  cases on with
  | none => rfl
  | some c =>
    have hspace : ∀ t ∈ [Token.space], t.opensClause = false := by simp [opensClause]
    show clauses ([.space] ++ ([.keyword .on, .space] ++ c.searchTokens d ++ rest)) = _
    rw [clauses_append hspace, c.clauses_searchTokens rfl hrest]
    rfl

theorem clauses_sourceTokens (ss : List QuerySource) (hrest : ∀ t ∈ rest.head?, t = .newline) :
    clauses (sourceTokens d ss ++ rest)
      = (ss.filterMap (·.on)).map (searched d) ++ clauses rest := by
  have hlines (ss : List QuerySource) :
      (∀ t ∈ ((ss.flatMap fun s => .newline :: s.tokens d) ++ rest).head?, t = .newline)
        ∧ clauses ((ss.flatMap fun s => .newline :: s.tokens d) ++ rest)
          = (ss.filterMap (·.on)).map (searched d) ++ clauses rest := by
    induction ss with
    | nil => exact ⟨hrest, rfl⟩
    | cons s ss ih =>
      refine ⟨by simp, ?_⟩
      rw [List.flatMap_cons, List.cons_append, List.cons_append, List.append_assoc, clauses,
        if_neg (by simp [opensClause]), clauses_source s ih.1, ih.2]
      cases hs : s.on <;> simp [hs]
  cases ss with
  | nil => rfl
  | cons s ss =>
    have hfrom : ∀ t ∈ [Token.newline, .keyword .from, .space], t.opensClause = false := by
      simp [opensClause]
    obtain ⟨hhead, htail⟩ := hlines ss
    rw [sourceTokens, List.append_assoc, List.append_assoc, clauses_append hfrom,
      clauses_source s hhead, htail]
    cases hs : s.on <;> simp [hs]

theorem clauses_tokens (d : Dialect) (q : Query) :
    clauses (q.tokens d)
      = (q.sources.filterMap (·.on) ++ q.filter.toList).map (searched d) := by
  have hselect : ∀ t ∈ Token.keyword .select :: outputTokens q.outputs, t.opensClause = false :=
    List.forall_mem_cons.mpr ⟨rfl, opensClause_outputTokens q.outputs⟩
  unfold tokens
  rw [List.append_assoc, clauses_append hselect, List.map_append]
  cases q.filter with
  | none =>
    rw [clauses_sourceTokens _ (by simp)]
    rfl
  | some c =>
    have hwhere : clauses ([.keyword .where, .space] ++ c.searchTokens d ++ []) = [c.searched d] :=
      c.clauses_searchTokens rfl nofun
    rw [List.append_nil] at hwhere
    show _ = _ ++ [c.searched d]
    rw [clauses_sourceTokens _ (by simp), ← hwhere]
    rfl

end Query

namespace Condition

def isTruth : Condition → Bool
  | .literal (.boolean _) => true
  | _ => false

/-- Whether a truth value is a whole condition or an operand of a conjunction, with or without
parentheses around it. The flag says that the condition stands in such a place itself. -/
def hasBareTruth (alone : Bool) : Condition → Bool
  | .literal (.boolean _) => alone
  | .binary .and l r => l.hasBareTruth true || r.hasBareTruth true
  | .binary .equals l r => l.hasBareTruth false || r.hasBareTruth false
  | .paren inner => inner.hasBareTruth alone
  | _ => false

def isSimple : Condition → Bool
  | .literal (.boolean _) => true
  | .binary .and l r => l.isSimple && r.isSimple
  | .binary .equals l r => (eq l r).isPlain
  | _ => false

/-- Tokens that are read as a condition in which no truth value stands alone. -/
def IsSearch (ts : List Token) : Prop :=
  ∃ c, ofTokens? ts = some c ∧ c.hasBareTruth true = false

variable {c l r : Condition}

theorem hasBareTruth_regroup (c : Condition) (alone : Bool) :
    (c.regroup none).hasBareTruth alone = c.hasBareTruth alone := by
  refine congrFun (map_regroup (fun c alone => c.hasBareTruth alone)
    (fun x y _ => x true || y true) ?_ (fun _ _ => rfl) ?_ ?_ c none) alone
  · exact fun x y z => funext fun _ => Bool.or_assoc (x true) (y true) (z true)
  · intro l r l' r' hl hr
    funext alone
    have hleft : l'.hasBareTruth false = l.hasBareTruth false := congrFun hl false
    have hright : r'.hasBareTruth false = r.hasBareTruth false := congrFun hr false
    show (l'.hasBareTruth false || r'.hasBareTruth false) = _
    rw [hleft, hright]
    rfl
  · exact fun _ _ hinner => hinner

theorem isSearch_unspaced_iff (hc : c.IsTight) :
    IsSearch c.unspaced ↔ c.hasBareTruth true = false := by
  rw [IsSearch, ofTokens?_of_isTight hc]
  simp [hasBareTruth_regroup]

theorem isSearch_both_iff :
    IsSearch (both l r).unspaced ↔ IsSearch l.unspaced ∧ IsSearch r.unspaced := by
  -- The conditions may be any, so they are replaced by those that their tokens are read as.
  obtain ⟨l', hl⟩ := exists_ofTokens?_unspaced l
  obtain ⟨r', hr⟩ := exists_ofTokens?_unspaced r
  obtain ⟨hl', hwritten⟩ := ofTokens?_eq_some_iff.mp hl
  obtain ⟨hr', hwritten'⟩ := ofTokens?_eq_some_iff.mp hr
  have htight : (both l' r').IsTight := ⟨hl'.isTight, hr'.isTight⟩
  have hboth : (both l r).unspaced = (both l' r').unspaced := by
    rw [both, both, unspaced_binary, unspaced_binary, hwritten, hwritten']
  rw [hboth, ← hwritten, ← hwritten', isSearch_unspaced_iff htight,
    isSearch_unspaced_iff hl'.isTight, isSearch_unspaced_iff hr'.isTight, both, hasBareTruth,
    Bool.or_eq_false_iff]

/-- Where a truth value may not stand alone, this is repaired for whole conditions only. -/
theorem isSearch_searched_iff (hd : d.allowsBareBoolean = false) (c : Condition) :
    IsSearch (c.searched d) ↔ c.isTruth = true ∨ IsSearch c.unspaced := by
  have hcomparison (b : Bool) : IsSearch ((truth b).searched d) := by
    have hbits : (truth b).searched d
        = (eq (.literal (.integer 1)) (.literal (.integer (if b then 1 else 0)))).unspaced := by
      simp [searched, truth, searchTokens, hd, unspaced]
    rw [hbits, isSearch_unspaced_iff (isTight_of_isPlain rfl)]
    rfl
  cases c with
  | literal l =>
    cases l with
    | boolean b => exact iff_of_true (hcomparison b) (.inl rfl)
    | integer | string => exact (or_iff_right Bool.false_ne_true).symm
  | column | binary | paren => exact (or_iff_right Bool.false_ne_true).symm

theorem isTruth_iff : c.isTruth = true ↔ ∃ b, c = truth b := by
  unfold isTruth
  split
  · next b => exact iff_of_true rfl ⟨b, rfl⟩
  · next h => exact iff_of_false Bool.false_ne_true fun ⟨b, hb⟩ => h b hb

theorem isTruth_foldl_both (cs : List Condition) (c c' : Condition) :
    ((c' :: cs).foldl both c).isTruth = false := by
  induction cs generalizing c c' with
  | nil => rfl
  | cons d cs ih => exact ih (both c c') d

end Condition

inductive BuildStep where
  | output (c : OutputColumn)
  | source (s : QuerySource)
  | filter (c : Condition)

namespace BuildStep

def on? : BuildStep → Option Condition
  | .source s => s.on
  | _ => none

def filter? : BuildStep → Option Condition
  | .filter c => some c
  | _ => none

end BuildStep

namespace Query

def perform (q : Query) : BuildStep → Query
  | .output c => q.addOutput c
  | .source s => q.addSource s
  | .filter c => q.restrict c

def build (d : Dialect) (steps : List BuildStep) : Query := steps.foldl perform (empty d)

theorem conditions_foldl_perform (steps : List BuildStep) (q : Query) :
    (steps.foldl perform q).sources.filterMap (·.on)
        = q.sources.filterMap (·.on) ++ steps.filterMap BuildStep.on?
      ∧ (steps.foldl perform q).filter
        = conjunction (q.filter.toList ++ steps.filterMap BuildStep.filter?) := by
  induction steps generalizing q with
  | nil => cases hq : q.filter <;> simp [hq, conjunction]
  | cons step steps ih =>
    rw [List.foldl_cons, (ih _).1, (ih _).2]
    cases step with
    | output c =>
      rw [perform, addOutput]
      split <;> exact ⟨rfl, rfl⟩
    | source s =>
      refine ⟨?_, rfl⟩
      rw [perform, addSource, List.filterMap_append, List.append_assoc]
      cases hs : s.on <;> simp [hs, BuildStep.on?]
    | filter c => exact ⟨rfl, conjunction_restrict q c _⟩

/-- The conditions of a written query can be read, and no truth value stands alone in them. -/
def IsSearchable (d : Dialect) (q : Query) : Prop := ∀ ts ∈ clauses (q.tokens d), IsSearch ts

theorem isSearchable_iff {q : Query} : q.IsSearchable d
    ↔ (∀ c ∈ q.sources.filterMap (·.on), IsSearch (c.searched d))
      ∧ ∀ c ∈ q.filter, IsSearch (c.searched d) := by
  rw [IsSearchable, clauses_tokens, List.forall_mem_map, List.forall_mem_append]
  exact and_congr Iff.rfl (forall_congr' fun c => imp_congr Option.mem_toList Iff.rfl)

theorem isSearch_conjunction_iff (hd : d.allowsBareBoolean = false) (cs : List Condition) :
    (∀ c ∈ conjunction cs, IsSearch (c.searched d))
      ↔ (∃ b, cs = [truth b]) ∨ ∀ c ∈ cs, IsSearch c.unspaced := by
  cases cs with
  | nil => exact iff_of_true nofun (.inr nofun)
  | cons c cs =>
    have hsome : (∀ x ∈ conjunction (c :: cs), IsSearch (x.searched d))
        ↔ IsSearch ((cs.foldl both c).searched d) := by
      simp [conjunction]
    rw [hsome, isSearch_searched_iff hd,
      foldl_both_iff (P := fun c => IsSearch c.unspaced) (fun _ _ => isSearch_both_iff)]
    refine or_congr ?_ Iff.rfl
    cases cs with
    | nil =>
      rw [List.foldl_nil, isTruth_iff]
      simp
    | cons c' cs =>
      rw [isTruth_foldl_both]
      simp

theorem isSearch_searched_allOf (hd : d.allowsBareBoolean = false) {cs : List Condition}
    (h : ∀ c ∈ cs, IsSearch c.unspaced) : IsSearch ((allOf cs).searched d) := by
  cases cs with
  | nil => exact (isSearch_searched_iff hd _).mpr (.inl rfl)
  | cons c cs => exact (isSearch_conjunction_iff hd (c :: cs)).mpr (.inr h) _ rfl

/-- Where a truth value may not stand alone, none does in a query that is built by any steps exactly
if each join condition is a truth value or has none that stands alone, and there is one truth value
as the only filter or no filter has one that stands alone. In what a plain condition is written as a
truth value stands alone exactly if one does in the condition. -/
theorem isSearchable_build_iff (hd : d.allowsBareBoolean = false) (tag : Dialect)
    (steps : List BuildStep) :
    ((build tag steps).IsSearchable d
      ↔ (∀ c ∈ steps.filterMap BuildStep.on?, c.isTruth = true ∨ IsSearch c.unspaced)
        ∧ ((∃ b, steps.filterMap BuildStep.filter? = [truth b])
          ∨ ∀ c ∈ steps.filterMap BuildStep.filter?, IsSearch c.unspaced))
      ∧ ∀ c : Condition, c.isPlain = true →
        (IsSearch c.unspaced ↔ c.hasBareTruth true = false) := by
  refine ⟨?_, fun c hc => isSearch_unspaced_iff (isTight_of_isPlain hc)⟩
  obtain ⟨hon, hfilter⟩ := conditions_foldl_perform steps (empty tag)
  rw [isSearchable_iff, build, hon, hfilter]
  refine and_congr ?_ (isSearch_conjunction_iff hd _)
  exact forall₂_congr fun c _ => isSearch_searched_iff hd c

def crossJoin : List BuildStep :=
  [.source (.base (.table ⟨none, "emp"⟩) "T1"),
    .source (.leftJoin (.table ⟨none, "dept"⟩) "T2" (.truth true))]

def idFilter : BuildStep := .filter (.eq (.columnOf "T1" "id") (.literal (.string "7")))

theorem isSearchable_build_crossJoin :
    Dialect.allowsBareBoolean .tsql = false
      ∧ (build .tsql (crossJoin ++ [idFilter, idFilter])).IsSearchable .tsql
      ∧ (build .tsql (crossJoin ++ [.filter (.truth true), idFilter])).sql
        = "SELECT *\nFROM [emp] AS [T1]\nLEFT JOIN [dept] AS [T2] ON 1 = 1\n"
          ++ "WHERE 1 AND [T1].[id] = '7'"
      ∧ ¬(build .tsql (crossJoin ++ [.filter (.truth true), idFilter])).IsSearchable .tsql := by
  have hd : Dialect.allowsBareBoolean .tsql = false := rfl
  obtain ⟨hgood, hplain⟩ := isSearchable_build_iff hd .tsql (crossJoin ++ [idFilter, idFilter])
  have hbad := (isSearchable_build_iff hd .tsql (crossJoin ++ [.filter (.truth true), idFilter])).1
  have hid := (hplain (.eq (.columnOf "T1" "id") (.literal (.string "7"))) rfl).mpr rfl
  refine ⟨hd, hgood.mpr ⟨?_, .inr ?_⟩, by decide +kernel, fun h => ?_⟩
  · simp [crossJoin, idFilter, BuildStep.on?, QuerySource.base, QuerySource.leftJoin, truth,
      isTruth]
  · simpa [crossJoin, idFilter, BuildStep.filter?] using hid
  · rcases (hbad.mp h).2 with ⟨b, hb⟩ | hall
    · cases hb
    · have htruth := (hplain (.truth true) rfl).mp (hall (.truth true) List.mem_cons_self)
      cases htruth

theorem not_forall_isSearchable_build :
    ¬∀ (d tag : Dialect) (steps : List BuildStep), d.allowsBareBoolean = false →
      (∀ c ∈ steps.filterMap BuildStep.on? ++ steps.filterMap BuildStep.filter?,
        c.isSimple = true) → (build tag steps).IsSearchable d := by
  intro h
  have hsimple : ∀ c ∈ (crossJoin ++ [.filter (.truth true), idFilter]).filterMap BuildStep.on?
      ++ (crossJoin ++ [.filter (.truth true), idFilter]).filterMap BuildStep.filter?,
      c.isSimple = true := by
    decide
  have hall := h .tsql .tsql (crossJoin ++ [.filter (.truth true), idFilter]) rfl hsimple
  have hwhere : [Token.boolean true, .keyword .and, .name "T1", .dot, .name "id", .equals,
      .string "7"] ∈ clauses
        ((build .tsql (crossJoin ++ [.filter (.truth true), idFilter])).tokens .tsql) := by
    decide
  obtain ⟨c, hc, hbare⟩ := hall _ hwhere
  have hread : c = .both (.truth true) (.eq (.columnOf "T1" "id") (.literal (.string "7"))) :=
    (Option.some.inj hc).symm
  rw [hread] at hbare
  cases hbare

end Query

end TriplesSql
