import TriplesSql.Template.Basic
import TriplesSql.Text.Digits

/-!
# Values of a template

Rendering fills the placeholders of a template with encoded column values. Matching takes a value
apart again: the literal segments have to stand in it as they are, each placeholder takes a piece
that is not empty and has no line feed, and of several ways to take the value apart the one with the
shortest pieces counts, the first piece before the second and so on.
-/

namespace TriplesSql.Template

abbrev Bindings := List (String × String)

def Segment.render (row : String → String) : Segment → String
  | .literal text => text
  | .column name => Text.Percent.encode (row name)

def render (row : String → String) (segments : List Segment) : String :=
  String.join (segments.map (Segment.render row))

def behind? : List Char → List Char → Option (List Char)
  | [], cs => some cs
  | _ :: _, [] => none
  | l :: ls, c :: cs => if l = c then behind? ls cs else none

def lengthen (c : Char) : List (List Char) → List (List Char)
  | [] => [[c]]
  | piece :: pieces => (c :: piece) :: pieces

/-- The shortest piece at the front of a text whose rest `next` takes apart, with the pieces of the
rest. -/
def shortest (next : List Char → Option (List (List Char))) :
    List Char → Option (List (List Char))
  | [] => none
  | c :: cs =>
    if c = '\n' then none
    else match next cs with
      | some pieces => some ([c] :: pieces)
      | none => (shortest next cs).map (lengthen c)

def split? : List Segment → List Char → Option (List (List Char))
  | [], [] => some []
  | [], _ :: _ => none
  | .literal text :: segments, cs => (behind? text.toList cs).bind (split? segments)
  | .column _ :: segments, cs => shortest (split? segments) cs

-- A search that starts again behind every piece would come back to one suffix many times. So the
-- pieces of all suffixes of the value are found together, from the last segment to the first.

/-- For each suffix of a text, the longest first: no pieces at its end, and nowhere else. -/
def endPieces : List Char → List (Option (List (List Char)))
  | [] => [some []]
  | _ :: cs => none :: endPieces cs

def literalPieces (literal : List Char) : List Char → List (Option (List (List Char))) →
    List (Option (List (List Char)))
  | [], table => [if literal.isPrefixOf [] then table[literal.length]?.join else none]
  | c :: cs, table =>
    (if literal.isPrefixOf (c :: cs) then table[literal.length]?.join else none)
      :: literalPieces literal cs (table.drop 1)

def columnPieces : List Char → List (Option (List (List Char))) →
    List (Option (List (List Char)))
  | [], _ => [none]
  | c :: cs, table =>
    let longer := columnPieces cs (table.drop 1)
    let found :=
      if c = '\n' then none
      else match table[1]?.join with
        | some pieces => some ([c] :: pieces)
        | none => longer.head?.join.map (lengthen c)
    found :: longer

/-- For each suffix of a text, the longest first, the pieces that the placeholders take. -/
def suffixPieces : List Segment → List Char → List (Option (List (List Char)))
  | [], cs => endPieces cs
  | .literal text :: segments, cs => literalPieces text.toList cs (suffixPieces segments cs)
  | .column _ :: segments, cs => columnPieces cs (suffixPieces segments cs)

def suffixes : List Char → List (List Char)
  | [] => [[]]
  | c :: cs => (c :: cs) :: suffixes cs

theorem getElem?_map_suffixes {α : Type} (f : List Char → Option α) (cs : List Char) (n : Nat) :
    ((suffixes cs).map f)[n]?.join = if n ≤ cs.length then f (cs.drop n) else none := by
  induction cs generalizing n with
  | nil => cases n <;> simp [suffixes]
  | cons c cs ih =>
    cases n with
    | zero => simp [suffixes]
    | succ n => simpa [suffixes] using ih n

theorem drop_map_suffixes {α : Type} (f : List Char → Option α) (c : Char) (cs : List Char) :
    ((suffixes (c :: cs)).map f).drop 1 = (suffixes cs).map f := by
  simp [suffixes]

theorem behind?_eq (literal cs : List Char) :
    behind? literal cs = if literal.isPrefixOf cs then some (cs.drop literal.length) else none := by
  induction literal generalizing cs with
  | nil => simp [behind?]
  | cons l ls ih =>
    cases cs with
    | nil => simp [behind?]
    | cons c cs =>
      by_cases h : l = c
      · simp [behind?, h, ih]
      · simp [behind?, h]

theorem length_le_of_isPrefixOf {literal cs : List Char} (h : literal.isPrefixOf cs = true) :
    literal.length ≤ cs.length :=
  (List.isPrefixOf_iff_prefix.1 h).length_le

theorem literalPieces_map (literal : List Char) (f : List Char → Option (List (List Char)))
    (cs : List Char) :
    literalPieces literal cs ((suffixes cs).map f)
      = (suffixes cs).map fun rest => (behind? literal rest).bind f := by
  have entry : ∀ rest : List Char,
      (if literal.isPrefixOf rest then ((suffixes rest).map f)[literal.length]?.join else none)
        = (behind? literal rest).bind f := by
    intro rest
    rw [behind?_eq, getElem?_map_suffixes]
    by_cases h : literal.isPrefixOf rest = true
    · simp [h, length_le_of_isPrefixOf h]
    · simp [h]
  induction cs with
  | nil => simpa [literalPieces, suffixes] using entry []
  | cons c cs ih =>
    have head := entry (c :: cs)
    rw [literalPieces, drop_map_suffixes, ih, head]
    simp [suffixes]

theorem columnPieces_map (f : List Char → Option (List (List Char))) (cs : List Char) :
    columnPieces cs ((suffixes cs).map f) = (suffixes cs).map (shortest f) := by
  induction cs with
  | nil => simp [columnPieces, suffixes, shortest]
  | cons c cs ih =>
    have next : ((suffixes (c :: cs)).map f)[1]?.join = f cs := by
      rw [getElem?_map_suffixes]; simp
    have longer : ((suffixes cs).map (shortest f)).head?.join = shortest f cs := by
      cases cs <;> simp [suffixes]
    simp only [columnPieces, drop_map_suffixes, ih, next, longer]
    simp [suffixes, shortest]

theorem endPieces_eq (cs : List Char) : endPieces cs = (suffixes cs).map (split? []) := by
  induction cs with
  | nil => simp [endPieces, suffixes, split?]
  | cons c cs ih => simp [endPieces, suffixes, split?, ih]

/-- The pieces of all suffixes are those that each suffix has by itself. -/
theorem suffixPieces_eq (segments : List Segment) (cs : List Char) :
    suffixPieces segments cs = (suffixes cs).map (split? segments) := by
  induction segments with
  | nil => exact endPieces_eq cs
  | cons segment segments ih =>
    cases segment with
    | literal text =>
      simp only [suffixPieces, ih, literalPieces_map]
      exact congrArg (List.map · _) (funext fun _ => rfl)
    | column name =>
      simp only [suffixPieces, ih, columnPieces_map]
      exact congrArg (List.map · _) (funext fun _ => rfl)

theorem head?_suffixPieces (segments : List Segment) (cs : List Char) :
    (suffixPieces segments cs).head?.join = split? segments cs := by
  rw [suffixPieces_eq]
  cases cs <;> simp [suffixes]

def placeholders (segments : List Segment) : List String :=
  segments.filterMap fun
    | .column name => some name
    | .literal _ => none

/-- Extends bindings by decoded pieces. A name that is bound has to have the same value again. -/
def bindPieces (bound : Bindings) : List (String × List Char) → Option Bindings
  | [] => some bound
  | (name, piece) :: rest => do
    let value ← Text.Percent.decode? piece
    match bound.lookup name with
    | some before => if before = value then bindPieces bound rest else none
    | none => bindPieces (bound ++ [(name, value)]) rest

/-- The column values of a value of a template, in order of first appearance of the columns. -/
def bindings? (template value : String) : Option Bindings := do
  let segments ← (parse template).toOption
  let pieces ← (suffixPieces segments value.toList).head?.join
  bindPieces [] ((placeholders segments).zip pieces)

theorem bindings?_of_parse {template value : String} {segments : List Segment}
    (h : parse template = .ok segments) :
    bindings? template value
      = (split? segments value.toList).bind fun pieces =>
          bindPieces [] ((placeholders segments).zip pieces) := by
  simp only [bindings?, h, Except.toOption, head?_suffixPieces]
  rfl

end TriplesSql.Template
