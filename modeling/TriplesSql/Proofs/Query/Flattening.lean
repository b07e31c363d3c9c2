import TriplesSql.Proofs.Query.Precedence
import TriplesSql.Proofs.Query.Selection
import TriplesSql.Query.Basic

/-!
# Conjunctions that are read back

No parentheses are written beside those that a condition has, so a conjunction of conjunctions is
read as one that is put together from the left. It has the same conjuncts in the same order, within
all parentheses, and it means the same, if the operands of each equation are columns, literals or
conditions in parentheses.
-/

namespace TriplesSql

/-- A part of a conjunction, with the conjunctions inside it as lists of their parts. -/
inductive Conjunct where
  | column (table : Option String) (name : String)
  | literal (l : Literal)
  | equals (l r : List Conjunct)
  | paren (inner : List Conjunct)

namespace Condition

def flatten : Condition → List Conjunct
  | .column table name => [.column table name]
  | .literal l => [.literal l]
  | .binary .and l r => l.flatten ++ r.flatten
  | .binary .equals l r => [.equals l.flatten r.flatten]
  | .paren inner => [.paren inner.flatten]

def isOperand : Condition → Bool
  | .binary _ _ _ => false
  | _ => true

def isPlain : Condition → Bool
  | .binary .and l r => l.isPlain && r.isPlain
  | .binary .equals l r => (l.isOperand && l.isPlain) && (r.isOperand && r.isPlain)
  | .paren inner => inner.isPlain
  | _ => true

/-- The operands of each equation are taken as they stand, whatever is done with conjunctions. -/
def IsTight : Condition → Prop
  | .binary .and l r => l.IsTight ∧ r.IsTight
  | .binary .equals l r => (l.IsTight ∧ 0 < l.level) ∧ r.IsTight ∧ 1 < r.level
  | .paren inner => inner.IsTight
  | _ => True

variable {c : Condition} {front : Option Condition}

theorem level_of_isOperand (hc : c.isOperand = true) : c.level = 2 := by
  cases c with
  | binary => cases hc
  | column | literal | paren => rfl

theorem isTight_of_isPlain (hc : c.isPlain = true) : c.IsTight := by
  induction c with
  | column | literal => trivial
  | binary op l r ihl ihr =>
    cases op with
    | equals =>
      simp only [isPlain, Bool.and_eq_true] at hc
      obtain ⟨⟨hlo, hl⟩, hro, hr⟩ := hc
      have hlevell : 0 < l.level := level_of_isOperand hlo ▸ Nat.zero_lt_two
      have hlevelr : 1 < r.level := level_of_isOperand hro ▸ Nat.one_lt_two
      exact ⟨⟨ihl hl, hlevell⟩, ihr hr, hlevelr⟩
    | and =>
      simp only [isPlain, Bool.and_eq_true] at hc
      exact ⟨ihl hc.1, ihr hc.2⟩
  | paren inner ih => exact ih hc

theorem IsAssociated.isTight (hc : c.IsAssociated) : c.IsTight := by
  induction c with
  | column | literal => trivial
  | binary op l r ihl ihr =>
    obtain ⟨⟨hl, hlevell⟩, hr, hlevelr⟩ := hc
    cases op with
    | equals => exact ⟨⟨ihl hl, hlevell⟩, ihr hr, hlevelr⟩
    | and => exact ⟨ihl hl, ihr hr⟩
  | paren inner ih => exact ih hc

def behind (front : Option Condition) (c : Condition) : Condition :=
  match front with
  | none => c
  | some l => both l c

def regroup : Condition → Option Condition → Condition
  | .binary .and l r, front => r.regroup (some (l.regroup front))
  | .binary .equals l r, front => behind front (eq (l.regroup none) (r.regroup none))
  | .paren inner, front => behind front (.paren (inner.regroup none))
  | c, front => behind front c

/-- What is made of conjunctions by an associative operation, and of equations and parentheses by
what it is of their parts, is the same for the conjunction that is put together from the left. -/
theorem map_regroup {β : Type} (f : Condition → β) (join : β → β → β)
    (hassoc : ∀ x y z, join (join x y) z = join x (join y z))
    (hboth : ∀ l r, f (both l r) = join (f l) (f r))
    (heq : ∀ l r l' r', f l' = f l → f r' = f r → f (eq l' r') = f (eq l r))
    (hparen : ∀ inner inner', f inner' = f inner → f (.paren inner') = f (.paren inner))
    (c : Condition) (front : Option Condition) :
    f (c.regroup front) = front.elim (f c) fun l => join (f l) (f c) := by
  have hbehind (front : Option Condition) (c : Condition) :
      f (behind front c) = front.elim (f c) fun l => join (f l) (f c) := by
    cases front with
    | none => rfl
    | some l => exact hboth l c
  induction c generalizing front with
  | column | literal => exact hbehind front _
  | binary op l r ihl ihr =>
    cases op with
    | equals =>
      have hsame : f (eq (l.regroup none) (r.regroup none)) = f (eq l r) :=
        heq l r _ _ (ihl none) (ihr none)
      rw [regroup, hbehind, hsame]
      rfl
    | and =>
      have hparts : f (.binary .and l r) = join (f l) (f r) := hboth l r
      rw [regroup, ihr, Option.elim_some, ihl, hparts]
      cases front with
      | none => rfl
      | some l' => exact hassoc _ _ _
  | paren inner ih =>
    have hsame : f (.paren (inner.regroup none)) = f (.paren inner) := hparen inner _ (ih none)
    rw [regroup, hbehind, hsame]

theorem unspaced_regroup (c : Condition) : (c.regroup none).unspaced = c.unspaced := by
  refine map_regroup unspaced (fun x y => x ++ .keyword .and :: y) ?_ ?_ ?_ ?_ c none
  · exact fun x y z => List.append_assoc x (.keyword .and :: y) (.keyword .and :: z)
  · exact unspaced_binary .and
  · intro l r l' r' hl hr
    rw [eq, eq, unspaced_binary, unspaced_binary, hl, hr]
  · intro inner inner' hinner
    rw [unspaced_paren, unspaced_paren, hinner]

theorem flatten_regroup (c : Condition) : (c.regroup none).flatten = c.flatten := by
  refine map_regroup flatten (· ++ ·) List.append_assoc (fun _ _ => rfl) ?_ ?_ c none
  · intro l r l' r' hl hr
    rw [eq, eq, flatten, flatten, hl, hr]
  · intro inner inner' hinner
    rw [flatten, flatten, hinner]

theorem value?_regroup (rows : PartialRows) (c : Condition) :
    (c.regroup none).value? rows = c.value? rows := by
  refine map_regroup (value? rows) conjoin conjoin_assoc (fun _ _ => rfl) ?_ ?_ c none
  · intro l r l' r' hl hr
    rw [eq, eq, value?, value?, hl, hr]
  · exact fun _ _ hinner => hinner

theorem isAssociated_behind (hfront : ∀ l ∈ front, l.IsAssociated) (hc : c.IsAssociated)
    (hlevel : 0 < c.level) : (behind front c).IsAssociated := by
  cases front with
  | none => exact hc
  | some l => exact ⟨⟨hfront l rfl, Nat.zero_le _⟩, hc, hlevel⟩

theorem level_regroup (hlevel : 0 < c.level) : (c.regroup none).level = c.level := by
  cases c with
  | binary op l r =>
    cases op with
    | and => exact absurd hlevel (Nat.lt_irrefl 0)
    | equals => rfl
  | column | literal | paren => rfl

theorem isAssociated_regroup (hc : c.IsTight) (hfront : ∀ l ∈ front, l.IsAssociated) :
    (c.regroup front).IsAssociated := by
  have hnone : ∀ l ∈ (none : Option Condition), l.IsAssociated := fun _ h => nomatch h
  induction c generalizing front with
  | column | literal => exact isAssociated_behind hfront trivial Nat.zero_lt_two
  | binary op l r ihl ihr =>
    cases op with
    | equals =>
      obtain ⟨⟨hl, hlevell⟩, hr, hlevelr⟩ := hc
      refine isAssociated_behind hfront ⟨⟨ihl hl hnone, ?_⟩, ihr hr hnone, ?_⟩ Nat.zero_lt_one
      · rw [level_regroup hlevell]
        exact hlevell
      · rw [level_regroup (Nat.lt_trans Nat.zero_lt_one hlevelr)]
        exact hlevelr
    | and =>
      refine ihr hc.2 fun l' hl' => ?_
      obtain rfl := Option.some.inj hl'
      exact ihl hc.1 hfront
  | paren inner ih => exact isAssociated_behind hfront (ih hc hnone) Nat.zero_lt_two

theorem ofTokens?_of_isTight (hc : c.IsTight) : ofTokens? c.unspaced = some (c.regroup none) := by
  have hnone : ∀ l ∈ (none : Option Condition), l.IsAssociated := fun _ h => nomatch h
  exact ofTokens?_eq_some_iff.mpr ⟨isAssociated_regroup hc hnone, unspaced_regroup c⟩

/-- What conditions are joined to: nothing for none of them, and otherwise a plain condition that
has their parts in order. -/
def Conjoins (cs : List Condition) : Option Condition → Prop
  | none => cs = []
  | some c => c.isPlain = true ∧ c.flatten = cs.flatMap flatten

theorem isPlain_foldl_both (cs : List Condition) (c : Condition) :
    (cs.foldl both c).isPlain = (c.isPlain && cs.all isPlain) := by
  induction cs generalizing c with
  | nil => simp
  | cons d cs ih => rw [List.foldl_cons, ih, both, isPlain, List.all_cons, Bool.and_assoc]

theorem conjoins_conjunction {cs : List Condition} (h : ∀ c ∈ cs, c.isPlain = true) :
    Conjoins cs (conjunction cs) := by
  cases cs with
  | nil => rfl
  | cons c cs =>
    obtain ⟨hc, hcs⟩ := List.forall_mem_cons.mp h
    refine ⟨?_, foldl_both_eq (fun _ _ => rfl) cs c⟩
    rw [isPlain_foldl_both, hc, List.all_eq_true.mpr hcs, Bool.true_and]

theorem conjunction_restrict (q : Query) (c : Condition) (cs : List Condition) :
    conjunction ((q.restrict c).filter.toList ++ cs)
      = conjunction (q.filter.toList ++ c :: cs) := by
  cases hq : q.filter <;> simp [Query.restrict, hq, conjunction]

theorem filter_foldl_restrict (q : Query) (cs : List Condition) :
    (cs.foldl Query.restrict q).filter = conjunction (q.filter.toList ++ cs) := by
  induction cs generalizing q with
  | nil => cases hq : q.filter <;> simp [hq, conjunction]
  | cons c cs ih => rw [List.foldl_cons, ih, conjunction_restrict]

/-- The tokens of a plain condition are read as a condition with the same parts in the same order
within all parentheses, which has the same value in all rows. Plain conditions of a list that are
joined, or put into a query one after the other, make a plain condition with the parts of them all
in order. -/
theorem ofTokens?_unspaced_flatten :
    (∀ c : Condition, c.isPlain = true → ∃ c', ofTokens? c.unspaced = some c'
      ∧ c'.flatten = c.flatten ∧ ∀ rows, c'.value? rows = c.value? rows)
    ∧ ∀ cs : List Condition, (∀ c ∈ cs, c.isPlain = true) → Conjoins cs (conjunction cs)
      ∧ ∀ q : Query, (∀ c ∈ q.filter, c.isPlain = true) →
        Conjoins (q.filter.toList ++ cs) (cs.foldl Query.restrict q).filter := by
  constructor
  · intro c hc
    have hread := ofTokens?_of_isTight (isTight_of_isPlain hc)
    exact ⟨c.regroup none, hread, flatten_regroup c, fun rows => value?_regroup rows c⟩
  · intro cs hcs
    refine ⟨conjoins_conjunction hcs, fun q hq => ?_⟩
    have hall : ∀ c ∈ q.filter.toList ++ cs, c.isPlain = true := by
      rw [List.forall_mem_append]
      exact ⟨fun c hc => hq c (Option.mem_toList.mp hc), hcs⟩
    rw [filter_foldl_restrict]
    exact conjoins_conjunction hall

def nestedCondition : Condition :=
  .both (.eq (.columnOf "T1" "id") (.literal (.integer 7)))
    (.both (.paren (.both (.truth true) (.both (.truth false) (.column none "open"))))
      (.eq (.paren (.eq (.column none "a") (.column none "b"))) (.truth true)))

theorem ofTokens?_unspaced_flatten_nested :
    nestedCondition.isPlain = true
      ∧ (∃ c', ofTokens? nestedCondition.unspaced = some c' ∧ c' ≠ nestedCondition
        ∧ c'.flatten = nestedCondition.flatten
        ∧ ∀ rows, c'.value? rows = nestedCondition.value? rows)
      ∧ Conjoins [nestedCondition, nestedCondition]
        (conjunction [nestedCondition, nestedCondition])
      ∧ Conjoins [.truth true, nestedCondition]
        (((Query.empty .tsql).restrict (.truth true)).restrict nestedCondition).filter := by
  have hplain : nestedCondition.isPlain = true := rfl
  have htruth : (truth true).isPlain = true := rfl
  obtain ⟨hread, hlist⟩ := ofTokens?_unspaced_flatten
  obtain ⟨c', hc', hflatten, hvalue⟩ := hread nestedCondition hplain
  have hne : ofTokens? nestedCondition.unspaced ≠ some nestedCondition := by decide
  have htwice := (hlist [nestedCondition, nestedCondition] (by simp [hplain])).1
  have hfilter := (hlist [nestedCondition] (by simp [hplain])).2
    ((Query.empty .tsql).restrict (.truth true)) (by rintro c ⟨⟩; exact htruth)
  exact ⟨hplain, ⟨c', hc', fun h => hne (h ▸ hc'), hflatten, hvalue⟩, htwice, hfilter⟩

end Condition

end TriplesSql
