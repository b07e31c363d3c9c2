import TriplesSql.Query.Condition

/-!
# Conditions read from tokens

A list of tokens is read as a condition: an equals sign binds tighter than a conjunction, and both
are taken together from the left. Operands are put off with the operators behind them until an
operator, a parenthesis or the end shows that no tighter one follows. What is read are exactly the
conditions in which no operand binds looser than its operator, and no right one as loosely, each
from the tokens it is written with.
-/

namespace TriplesSql

def Operator.level : Operator → Nat
  | .and => 0
  | .equals => 1

def Operator.ofToken? : Token → Option Operator
  | .keyword .and => some .and
  | .equals => some .equals
  | _ => none

theorem Operator.token_of_ofToken? {t : Token} {op : Operator} (h : ofToken? t = some op) :
    op.token = t := by
  unfold ofToken? at h
  split at h <;> cases h <;> rfl

def Literal.ofToken? : Token → Option Literal
  | .integer n => some (.integer n)
  | .string s => some (.string s)
  | .boolean b => some (.boolean b)
  | _ => none

theorem Literal.token_of_ofToken? {t : Token} {l : Literal} (h : ofToken? t = some l) :
    l.token = t := by
  unfold ofToken? at h
  split at h <;> cases h <;> rfl

namespace Condition

abbrev Pending := List (Condition × Operator)

/-- The operand that ends here, as all operators that bind at least as tightly take it. -/
def reduce (level : Nat) : Pending → Condition → Pending × Condition
  | [], c => ([], c)
  | (l, op) :: pending, c =>
    if level ≤ op.level then reduce level pending (.binary op l c) else ((l, op) :: pending, c)

/-- What was read last: nothing of an operand, the name of a table with its point, or an operand. -/
inductive Cursor where
  | start
  | dotted (table : String)
  | behind (c : Condition)

structure Place where
  pending : Pending
  outer : List Pending
  cursor : Cursor

namespace Place

def start : Place := ⟨[], [], .start⟩

def readOperand? (p : Place) : Token → Option Place
  | .lparen => some ⟨[], p.pending :: p.outer, .start⟩
  | .name name => some { p with cursor := .behind (.column none name) }
  | t => (Literal.ofToken? t).map fun l => { p with cursor := .behind (.literal l) }

def readBehind? (p : Place) (c : Condition) : Token → Option Place
  | .dot =>
    match c with
    | .column none table => some { p with cursor := .dotted table }
    | _ => none
  | .rparen =>
    match p.outer with
    | [] => none
    | pending :: outer => some ⟨pending, outer, .behind (.paren (reduce 0 p.pending c).2)⟩
  | t => (Operator.ofToken? t).map fun op =>
    let (pending, l) := reduce op.level p.pending c
    ⟨(l, op) :: pending, p.outer, .start⟩

def read? (p : Place) (t : Token) : Option Place :=
  match p.cursor with
  | .start => p.readOperand? t
  | .dotted table =>
    match t with
    | .name name => some { p with cursor := .behind (.column (some table) name) }
    | _ => none
  | .behind c => p.readBehind? c t

def finish? (p : Place) : Option Condition :=
  match p.outer, p.cursor with
  | [], .behind c => some (reduce 0 p.pending c).2
  | _, _ => none

end Place

def ofTokens? (ts : List Token) : Option Condition :=
  (ts.foldlM Place.read? .start).bind Place.finish?

def level : Condition → Nat
  | .binary op _ _ => op.level
  | _ => 2

/-- Each operand binds at least as tightly as its operator, and a right one tighter. -/
def IsAssociated : Condition → Prop
  | .binary op l r => (l.IsAssociated ∧ op.level ≤ l.level) ∧ r.IsAssociated ∧ op.level < r.level
  | .paren inner => inner.IsAssociated
  | _ => True

def unspaced (c : Condition) : List Token := c.tokens.filter (· ≠ .space)

@[simp]
theorem unspaced_binary (op : Operator) (l r : Condition) :
    (binary op l r).unspaced = l.unspaced ++ op.token :: r.unspaced := by
  cases op <;> simp [unspaced, tokens, Operator.token]

@[simp]
theorem unspaced_paren (inner : Condition) :
    (paren inner).unspaced = .lparen :: inner.unspaced ++ [.rparen] := by
  simp [unspaced, tokens]

def spine : Condition → Pending
  | .binary op l r => r.spine ++ [(l, op)]
  | _ => []

def last : Condition → Condition
  | .binary _ _ r => r.last
  | c => c

variable {c : Condition} {pending : Pending} {outer : List Pending}

theorem reduce_spine {k : Nat} (hc : c.IsAssociated) (hk : k ≤ c.level) :
    reduce k (c.spine ++ pending) c.last = reduce k pending c := by
  induction c generalizing pending with
  | column | literal | paren => rfl
  | binary op l r _ ihr =>
    obtain ⟨-, hr, hop⟩ := hc
    have hkop : k ≤ op.level := hk
    have hkr : k ≤ r.level := Nat.le_trans hkop (Nat.le_of_lt hop)
    rw [spine, last, List.append_assoc, ihr hr hkr, List.singleton_append, reduce, if_pos hkop]

theorem reduce_of_lt {k : Nat} (h : ∀ e ∈ pending.head?, e.2.level < k) :
    reduce k pending c = (pending, c) := by
  cases pending with
  | nil => rfl
  | cons e pending =>
    have he : ¬k ≤ e.2.level := Nat.not_le_of_lt (h e rfl)
    rw [reduce, if_neg he]

theorem reduce_zero_spine (hc : c.IsAssociated) : reduce 0 c.spine c.last = ([], c) := by
  rw [← List.append_nil c.spine, reduce_spine hc (Nat.zero_le _), reduce]

theorem readBehind?_operator {pending' : Pending} {l : Condition} {op : Operator}
    (h : reduce op.level pending c = (pending', l)) :
    Place.readBehind? ⟨pending, outer, .behind c⟩ c op.token
      = some ⟨(l, op) :: pending', outer, .start⟩ := by
  cases op <;> simp [Place.readBehind?, Operator.token, Operator.ofToken?, h]

/-- From the front of an operand the tokens of a condition are read up to its last operand. -/
theorem foldlM_unspaced (hc : c.IsAssociated)
    (hpending : ∀ e ∈ pending.head?, e.2.level < c.level) :
    c.unspaced.foldlM Place.read? ⟨pending, outer, .start⟩
      = some ⟨c.spine ++ pending, outer, .behind c.last⟩ := by
  induction c generalizing pending outer with
  | column table name => cases table <;> rfl
  | literal l => cases l <;> rfl
  | binary op l r ihl ihr =>
    obtain ⟨⟨hl, hopl⟩, hr, hopr⟩ := hc
    have hlevel : ∀ e ∈ pending.head?, e.2.level < op.level := hpending
    have hfront : l.unspaced.foldlM Place.read? ⟨pending, outer, .start⟩
        = some ⟨l.spine ++ pending, outer, .behind l.last⟩ :=
      ihl hl fun e he => Nat.lt_of_lt_of_le (hlevel e he) hopl
    have hreduce : reduce op.level (l.spine ++ pending) l.last = (pending, l) := by
      rw [reduce_spine hl hopl, reduce_of_lt hlevel]
    have hstep : Place.read? ⟨l.spine ++ pending, outer, .behind l.last⟩ op.token
        = some ⟨(l, op) :: pending, outer, .start⟩ := readBehind?_operator hreduce
    have hback : r.unspaced.foldlM Place.read? ⟨(l, op) :: pending, outer, .start⟩
        = some ⟨r.spine ++ (l, op) :: pending, outer, .behind r.last⟩ :=
      ihr hr fun e he => Option.some.inj he ▸ hopr
    rw [unspaced_binary, List.foldlM_append, hfront]
    simp only [Option.bind_eq_bind, Option.bind_some, List.foldlM_cons, hstep, hback, spine, last,
      List.append_assoc, List.singleton_append]
  | paren inner ih =>
    have hassociated : inner.IsAssociated := hc
    have hinner : inner.unspaced.foldlM Place.read? ⟨[], pending :: outer, .start⟩
        = some ⟨inner.spine, pending :: outer, .behind inner.last⟩ := by
      rw [ih hassociated (by simp), List.append_nil]
    rw [unspaced_paren, List.cons_append, List.foldlM_cons]
    show (inner.unspaced ++ [Token.rparen]).foldlM Place.read? ⟨[], pending :: outer, .start⟩ = _
    rw [List.foldlM_append, hinner]
    simp [Place.read?, Place.readBehind?, reduce_zero_spine hassociated, spine, last]

theorem ofTokens?_unspaced (hc : c.IsAssociated) : ofTokens? c.unspaced = some c := by
  have hread : c.unspaced.foldlM Place.read? .start = some ⟨c.spine, [], .behind c.last⟩ := by
    rw [Place.start, foldlM_unspaced hc (by simp), List.append_nil]
  rw [ofTokens?, hread]
  simp [Place.finish?, reduce_zero_spine hc]

theorem exists_foldlM_unspaced (c : Condition) (pending : Pending) (outer : List Pending) :
    ∃ pending' last, c.unspaced.foldlM Place.read? ⟨pending, outer, .start⟩
      = some ⟨pending', outer, .behind last⟩ := by
  induction c generalizing pending outer with
  | column table name => cases table <;> exact ⟨_, _, rfl⟩
  | literal l => cases l <;> exact ⟨_, _, rfl⟩
  | binary op l r ihl ihr =>
    obtain ⟨front, last, hfront⟩ := ihl pending outer
    have hstep : Place.read? ⟨front, outer, .behind last⟩ op.token
        = some ⟨((reduce op.level front last).2, op) :: (reduce op.level front last).1, outer,
          .start⟩ := readBehind?_operator rfl
    obtain ⟨back, last', hback⟩ := ihr
      (((reduce op.level front last).2, op) :: (reduce op.level front last).1) outer
    refine ⟨back, last', ?_⟩
    rw [unspaced_binary, List.foldlM_append, hfront]
    simp only [Option.bind_eq_bind, Option.bind_some, List.foldlM_cons, hstep, hback]
  | paren inner ih =>
    obtain ⟨inside, last, hinner⟩ := ih [] (pending :: outer)
    refine ⟨pending, .paren (reduce 0 inside last).2, ?_⟩
    rw [unspaced_paren, List.cons_append, List.foldlM_cons]
    show (inner.unspaced ++ [Token.rparen]).foldlM Place.read? ⟨[], pending :: outer, .start⟩ = _
    rw [List.foldlM_append, hinner]
    rfl

theorem exists_ofTokens?_unspaced (c : Condition) : ∃ c', ofTokens? c.unspaced = some c' := by
  obtain ⟨pending, last, hread⟩ := exists_foldlM_unspaced c [] []
  refine ⟨(reduce 0 pending last).2, ?_⟩
  rw [ofTokens?, Place.start, hread]
  rfl

def Waits (level : Nat) : Pending → Prop
  | [] => True
  | (l, op) :: pending =>
    op.level < level ∧ (l.IsAssociated ∧ op.level ≤ l.level) ∧ Waits op.level pending

def written : Pending → List Token
  | [] => []
  | (l, op) :: pending => written pending ++ (l.unspaced ++ [op.token])

def writtenOutside : List Pending → List Token
  | [] => []
  | pending :: outer => writtenOutside outer ++ (written pending ++ [.lparen])

def Cursor.written : Cursor → List Token
  | .start => []
  | .dotted table => [.name table, .dot]
  | .behind c => c.unspaced

/-- A place behind the given tokens: what waits makes sense and is written with them. -/
structure Place.IsBehind (p : Place) (ts : List Token) : Prop where
  pending : Waits 2 p.pending
  outer : ∀ pending ∈ p.outer, Waits 2 pending
  operand : ∀ c, p.cursor = .behind c → c.IsAssociated ∧ c.level = 2
  tokens : writtenOutside p.outer ++ (written p.pending ++ p.cursor.written) = ts

theorem Waits.reduce {k : Nat} (h : Waits c.level pending) (hc : c.IsAssociated)
    (hk : k ≤ c.level) :
    Waits k (reduce k pending c).1 ∧ (Condition.reduce k pending c).2.IsAssociated
      ∧ k ≤ (Condition.reduce k pending c).2.level
      ∧ written (Condition.reduce k pending c).1 ++ (Condition.reduce k pending c).2.unspaced
        = written pending ++ c.unspaced := by
  induction pending generalizing c with
  | nil => exact ⟨trivial, hc, hk, rfl⟩
  | cons e pending ih =>
    obtain ⟨l, op⟩ := e
    obtain ⟨hop, hl, hrest⟩ := h
    rw [Condition.reduce]
    split
    · next hkop =>
      obtain ⟨hwaits, hassociated, hlevel, hwritten⟩ :=
        ih (c := .binary op l c) hrest ⟨hl, hc, hop⟩ hkop
      refine ⟨hwaits, hassociated, hlevel, hwritten.trans ?_⟩
      simp [written]
    · next hkop => exact ⟨⟨Nat.lt_of_not_le hkop, hl, hrest⟩, hc, hk, rfl⟩

theorem Waits.eq_nil (h : Waits 0 pending) : pending = [] := by
  cases pending with
  | nil => rfl
  | cons e pending => exact absurd h.1 (Nat.not_lt_zero _)

namespace Place

variable {p p' : Place} {t : Token} {ts : List Token}

theorem isBehind_start : start.IsBehind [] :=
  ⟨trivial, fun _ h => absurd h List.not_mem_nil, nofun, rfl⟩

theorem IsBehind.operandEnd (h : p.IsBehind ts) (hc : c.IsAssociated) (hlevel : c.level = 2)
    (hwritten : p.cursor.written ++ [t] = c.unspaced) :
    IsBehind { p with cursor := .behind c } (ts ++ [t]) := by
  refine ⟨h.pending, h.outer, fun c' hc' => ?_, ?_⟩
  · cases hc'
    exact ⟨hc, hlevel⟩
  · rw [← h.tokens]
    simp only [Cursor.written, ← hwritten, List.append_assoc]

theorem IsBehind.readOperand? (h : p.IsBehind ts) (hcursor : p.cursor = .start)
    (hp : p.readOperand? t = some p') : p'.IsBehind (ts ++ [t]) := by
  have hnone : p.cursor.written = [] := by rw [hcursor]; rfl
  unfold Place.readOperand? at hp
  split at hp
  · obtain rfl := Option.some.inj hp
    have houter : ∀ pending ∈ p.pending :: p.outer, Waits 2 pending :=
      List.forall_mem_cons.mpr ⟨h.pending, h.outer⟩
    refine ⟨trivial, houter, nofun, ?_⟩
    rw [← h.tokens, hnone]
    simp [writtenOutside, written, Cursor.written]
  · obtain rfl := Option.some.inj hp
    exact h.operandEnd trivial rfl (by rw [hnone]; rfl)
  · obtain ⟨l, hl, rfl⟩ := Option.map_eq_some_iff.mp hp
    refine h.operandEnd trivial rfl ?_
    rw [hnone, ← Literal.token_of_ofToken? hl]
    cases l <;> rfl

theorem IsBehind.readBehind? (h : p.IsBehind ts) (hcursor : p.cursor = .behind c)
    (hp : p.readBehind? c t = some p') : p'.IsBehind (ts ++ [t]) := by
  obtain ⟨hc, hlevel⟩ := h.operand c hcursor
  have htokens : writtenOutside p.outer ++ (written p.pending ++ c.unspaced) = ts := by
    rw [← h.tokens, hcursor]
    rfl
  have hpending : Waits c.level p.pending := hlevel ▸ h.pending
  unfold Place.readBehind? at hp
  split at hp
  · split at hp
    · next table =>
      obtain rfl := Option.some.inj hp
      refine ⟨h.pending, h.outer, nofun, ?_⟩
      have htable : (column none table).unspaced = [.name table] := rfl
      rw [← htokens, htable]
      simp [Cursor.written]
    · cases hp
  · split at hp
    · cases hp
    · next pending outer houter =>
      obtain rfl := Option.some.inj hp
      obtain ⟨hwaits, hassociated, -, hwritten⟩ := hpending.reduce hc (Nat.zero_le _)
      have hnone : (reduce 0 p.pending c).1 = [] := hwaits.eq_nil
      rw [houter] at htokens
      have hw : ∀ pending' ∈ pending :: outer, Waits 2 pending' := houter ▸ h.outer
      obtain ⟨hpending', houter'⟩ := List.forall_mem_cons.mp hw
      refine ⟨hpending', houter', fun c' hc' => ?_, ?_⟩
      · cases hc'
        exact ⟨hassociated, rfl⟩
      · rw [hnone] at hwritten
        rw [← htokens, ← hwritten]
        simp [writtenOutside, Cursor.written, written]
  · obtain ⟨op, hop, rfl⟩ := Option.map_eq_some_iff.mp hp
    have hle : op.level ≤ c.level := by
      rw [hlevel]
      cases op <;> decide
    obtain ⟨hwaits, hassociated, hlevel', hwritten⟩ := hpending.reduce hc hle
    have hop2 : op.level < 2 := by cases op <;> decide
    refine ⟨⟨hop2, ⟨hassociated, hlevel'⟩, hwaits⟩, h.outer, nofun, ?_⟩
    rw [← htokens, ← hwritten, ← Operator.token_of_ofToken? hop]
    simp [written, Cursor.written]

theorem IsBehind.read? (h : p.IsBehind ts) (hp : p.read? t = some p') :
    p'.IsBehind (ts ++ [t]) := by
  unfold Place.read? at hp
  split at hp
  · next hcursor => exact h.readOperand? hcursor hp
  · next table hcursor =>
    split at hp
    · obtain rfl := Option.some.inj hp
      exact h.operandEnd trivial rfl (by rw [hcursor]; rfl)
    · cases hp
  · next c hcursor => exact h.readBehind? hcursor hp

theorem IsBehind.foldlM {us : List Token} (h : p.IsBehind ts)
    (hp : us.foldlM Place.read? p = some p') : p'.IsBehind (ts ++ us) := by
  induction us generalizing p ts with
  | nil =>
    obtain rfl := Option.some.inj hp
    rwa [List.append_nil]
  | cons u us ih =>
    rw [List.foldlM_cons] at hp
    obtain ⟨q, hq, hrest⟩ := Option.bind_eq_some_iff.mp hp
    have hend := ih (h.read? hq) hrest
    rwa [List.append_assoc] at hend

theorem IsBehind.finish? (h : p.IsBehind ts) (hp : p.finish? = some c) :
    c.IsAssociated ∧ c.unspaced = ts := by
  unfold Place.finish? at hp
  split at hp
  · next last houter hcursor =>
    obtain rfl := Option.some.inj hp
    obtain ⟨hlast, hlevel⟩ := h.operand last hcursor
    have hpending : Waits last.level p.pending := hlevel ▸ h.pending
    obtain ⟨hwaits, hassociated, -, hwritten⟩ := hpending.reduce hlast (Nat.zero_le _)
    rw [hwaits.eq_nil] at hwritten
    refine ⟨hassociated, hwritten.trans ?_⟩
    rw [← h.tokens, houter, hcursor]
    rfl
  · cases hp

end Place

/-- The tokens of a list are read as a condition exactly if it is written with them and its
operators stand as they bind. -/
theorem ofTokens?_eq_some_iff {ts : List Token} :
    ofTokens? ts = some c ↔ c.IsAssociated ∧ c.unspaced = ts := by
  constructor
  · intro h
    obtain ⟨p, hp, hc⟩ := Option.bind_eq_some_iff.mp h
    have hbehind : p.IsBehind ts := Place.isBehind_start.foldlM hp
    exact hbehind.finish? hc
  · rintro ⟨hc, rfl⟩
    exact ofTokens?_unspaced hc

end Condition

end TriplesSql
