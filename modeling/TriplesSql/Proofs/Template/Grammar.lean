import TriplesSql.Proofs.Lists
import TriplesSql.Template.Matching

/-!
# Grammar of templates

A text is a template exactly if it is made of escapes, placeholders and characters that mean nothing
in a template. In any other text the first place counts where none of these begins: an empty
placeholder, or a brace that opens or closes none and has no backslash to itself.
-/

namespace TriplesSql.Template

def IsPlain (c : Char) : Prop := c ≠ '{' ∧ c ≠ '}' ∧ c ≠ '\\'

/-- The texts that are templates. A backslash stands for itself where no character is left on its
line. -/
inductive IsTemplate : List Char → Prop where
  | nil : IsTemplate []
  | char {c : Char} {cs : List Char} (plain : IsPlain c) (rest : IsTemplate cs) :
      IsTemplate (c :: cs)
  | backslash {cs : List Char} (lone : cs = [] ∨ ['\n'] <+: cs) (rest : IsTemplate cs) :
      IsTemplate ('\\' :: cs)
  | escape {c : Char} {cs : List Char} (sameLine : c ≠ '\n') (rest : IsTemplate cs) :
      IsTemplate ('\\' :: c :: cs)
  | placeholder {name cs : List Char} (nonempty : name ≠ []) (plain : ∀ c ∈ name, IsPlain c)
      (rest : IsTemplate cs) : IsTemplate ('{' :: name ++ '}' :: cs)

def OpensPlaceholder (cs : List Char) : Prop :=
  ∃ name rest, cs = '{' :: name ++ '}' :: rest ∧ ∀ c ∈ name, IsPlain c

/-- What comes behind a text is escaped: the backslashes at its end are odd in number. -/
def Escapes (before : List Char) : Prop :=
  (before.reverse.takeWhile (· = '\\')).length % 2 = 1

/-- A fault is found at the front of a text that begins at an offset. -/
def Fault.IsAt (offset : Nat) (rest : List Char) : Fault → Prop
  | .emptyPlaceholder o => o = offset ∧ ['{', '}'] <+: rest
  | .unbalanced brace o => o = offset ∧ (brace = '{' ∨ brace = '}') ∧ [brace] <+: rest
      ∧ ¬OpensPlaceholder rest

/-- A piece stands at the front of a text with the given rest behind it. -/
inductive Stands : Piece → List Char → Prop where
  | char {c : Char} {rest : List Char} (plain : IsPlain c) : Stands (.char c) rest
  | backslash {rest : List Char} (lone : rest = [] ∨ ['\n'] <+: rest) : Stands (.char '\\') rest
  | escape {c : Char} {rest : List Char} (sameLine : c ≠ '\n') : Stands (.escape c) rest
  | placeholder {name rest : List Char} (plain : ∀ c ∈ name, IsPlain c) :
      Stands (.placeholder name) rest
  | brace {c : Char} {rest : List Char} (isBrace : c = '{' ∨ c = '}')
      (closed : ¬OpensPlaceholder (c :: rest)) : Stands (.brace c) rest

variable {p : Piece} {c : Char} {cs name before rest : List Char} {offset : Nat} {f : Fault}

theorem name?_eq_some_iff :
    name? cs = some name ↔ ∃ rest, cs = name ++ '}' :: rest ∧ ∀ c ∈ name, IsPlain c := by
  induction cs generalizing name with
  | nil => simp [name?]
  | cons c cs ih =>
    rw [name?]
    split
    · next hc =>
      subst hc
      constructor
      · intro h
        obtain rfl : [] = name := Option.some.inj h
        exact ⟨cs, rfl, fun c hm => absurd hm List.not_mem_nil⟩
      · rintro ⟨rest, hcs, hplain⟩
        cases name with
        | nil => rfl
        | cons d name =>
          obtain ⟨rfl, -⟩ := List.cons.inj hcs
          exact absurd rfl (hplain '}' List.mem_cons_self).2.1
    · next hc =>
      split
      · next hd =>
        refine ⟨fun h => (nomatch h), ?_⟩
        rintro ⟨rest, hcs, hplain⟩
        cases name with
        | nil => exact absurd (List.cons.inj hcs).1 hc
        | cons d name =>
          obtain ⟨rfl, -⟩ := List.cons.inj hcs
          have hplain := hplain c List.mem_cons_self
          exact absurd hd (not_or.mpr ⟨hplain.1, hplain.2.2⟩)
      · next hd =>
        rw [not_or] at hd
        rw [Option.map_eq_some_iff]
        constructor
        · rintro ⟨tail, htail, rfl⟩
          obtain ⟨rest, rfl, hplain⟩ := ih.mp htail
          exact ⟨rest, rfl, List.forall_mem_cons.mpr ⟨⟨hd.1, hc, hd.2⟩, hplain⟩⟩
        · rintro ⟨rest, hcs, hplain⟩
          cases name with
          | nil => exact absurd (List.cons.inj hcs).1 hc
          | cons d name =>
            obtain ⟨rfl, rfl⟩ := List.cons.inj hcs
            exact ⟨name, ih.mpr ⟨rest, rfl, fun e hm => hplain e (List.mem_cons_of_mem c hm)⟩, rfl⟩

theorem opensPlaceholder_iff :
    OpensPlaceholder (c :: cs) ↔ c = '{' ∧ ∃ name, name? cs = some name := by
  unfold OpensPlaceholder
  constructor
  · rintro ⟨name, rest, hcs, hplain⟩
    obtain ⟨rfl, rfl⟩ := List.cons.inj hcs
    exact ⟨rfl, name, name?_eq_some_iff.mpr ⟨rest, rfl, hplain⟩⟩
  · rintro ⟨rfl, name, hname⟩
    obtain ⟨rest, rfl, hplain⟩ := name?_eq_some_iff.mp hname
    exact ⟨name, rest, rfl, hplain⟩

theorem piecesBehind_append (xs cs : List Char) :
    piecesBehind xs.length (xs ++ cs) = piecesBehind 0 cs := by
  induction xs with
  | nil => rfl
  | cons x xs ih => exact ih

theorem piecesBehind_cons (c : Char) (xs : List Char) (h : frontPiece c (xs ++ rest) = p)
    (hp : p.source = c :: xs) :
    piecesBehind 0 (p.source ++ rest) = p :: piecesBehind 0 rest := by
  have hlen : (frontPiece c (xs ++ rest)).source.length - 1 = xs.length := by
    rw [h, hp]
    rfl
  rw [hp, List.cons_append, piecesBehind]
  simp only [hlen, piecesBehind_append]
  rw [h]

theorem Stands.piecesBehind_eq (h : Stands p rest) :
    piecesBehind 0 (p.source ++ rest) = p :: piecesBehind 0 rest := by
  cases h with
  | @char c _ plain =>
    refine piecesBehind_cons c [] ?_ rfl
    obtain ⟨hopen, hclose, hback⟩ := plain
    unfold frontPiece
    split
    · exact absurd rfl hback
    · exact absurd rfl hback
    · exact absurd rfl hopen
    · exact absurd rfl hclose
    · rfl
  | backslash lone =>
    refine piecesBehind_cons '\\' [] ?_ rfl
    rcases lone with rfl | ⟨tail, rfl⟩ <;> rfl
  | @escape c _ sameLine =>
    refine piecesBehind_cons '\\' [c] ?_ rfl
    exact if_neg sameLine
  | @placeholder name _ plain =>
    refine piecesBehind_cons '{' (name ++ ['}']) ?_ rfl
    have hname : name? (name ++ ['}'] ++ rest) = some name :=
      name?_eq_some_iff.mpr ⟨rest, by simp, plain⟩
    simp only [frontPiece, hname]
  | @brace c _ isBrace closed =>
    refine piecesBehind_cons c [] ?_ rfl
    rcases isBrace with rfl | rfl
    · have hname : name? rest = none := by
        rw [Option.eq_none_iff_forall_ne_some]
        exact fun name hname => closed (opensPlaceholder_iff.mpr ⟨rfl, name, hname⟩)
      simp only [frontPiece, List.nil_append, hname]
    · rfl

theorem exists_stands (c : Char) (cs : List Char) :
    ∃ p rest, c :: cs = p.source ++ rest ∧ Stands p rest := by
  by_cases hopen : OpensPlaceholder (c :: cs)
  · obtain ⟨name, rest, hcs, hplain⟩ := hopen
    exact ⟨.placeholder name, rest, by simp [hcs, Piece.source], .placeholder hplain⟩
  by_cases hbrace : c = '{' ∨ c = '}'
  · exact ⟨.brace c, cs, rfl, .brace hbrace hopen⟩
  rw [not_or] at hbrace
  by_cases hback : c = '\\'
  · subst hback
    cases cs with
    | nil => exact ⟨.char '\\', [], rfl, .backslash (Or.inl rfl)⟩
    | cons d cs =>
      by_cases hd : d = '\n'
      · subst hd
        exact ⟨.char '\\', _, rfl, .backslash (Or.inr ⟨cs, rfl⟩)⟩
      · exact ⟨.escape d, cs, rfl, .escape hd⟩
  · exact ⟨.char c, cs, rfl, .char ⟨hbrace.1, hbrace.2, hback⟩⟩

theorem pieceInduction {motive : List Char → Prop} (nil : motive [])
    (piece : ∀ p rest, Stands p rest → motive rest → motive (p.source ++ rest))
    (cs : List Char) : motive cs := by
  induction hn : cs.length using Nat.strongRecOn generalizing cs with
  | _ n ih =>
    cases cs with
    | nil => exact nil
    | cons c cs =>
      obtain ⟨p, rest, hcs, hstands⟩ := exists_stands c cs
      have hsource : 0 < p.source.length := by
        cases p <;> simp [Piece.source]
      have hlen := congrArg List.length hcs
      rw [List.length_append] at hlen
      rw [hcs]
      exact piece p rest hstands (ih rest.length (by omega) rest rfl)

theorem escapes_append_cons {c : Char} (hc : c ≠ '\\') (xs ys : List Char) :
    Escapes (xs ++ c :: ys) ↔ Escapes ys := by
  unfold Escapes
  rw [List.reverse_append, List.reverse_cons, List.append_assoc, List.singleton_append,
    takeWhile_append_cons (p := (· = '\\')) (decide_eq_false hc)]

theorem escapes_escape (c : Char) (cs : List Char) : Escapes ('\\' :: c :: cs) ↔ Escapes cs := by
  by_cases hc : c = '\\'
  · subst hc
    have hrev : ('\\' :: '\\' :: cs).reverse = cs.reverse ++ ['\\', '\\'] := by simp
    unfold Escapes
    rw [hrev, List.takeWhile_append]
    split
    · next hall =>
      -- two more backslashes behind a text of backslashes
      have htwo : (['\\', '\\'].takeWhile (· = '\\')).length = 2 := rfl
      rw [List.length_append, htwo, hall, Nat.add_mod_right]
    · rfl
  · exact escapes_append_cons hc ['\\'] cs

def byteSize (cs : List Char) : Nat := cs.foldr (fun c n => c.utf8Size + n) 0

theorem byteSize_append (xs ys : List Char) : byteSize (xs ++ ys) = byteSize xs + byteSize ys := by
  induction xs with
  | nil => exact (Nat.zero_add _).symm
  | cons x xs ih =>
    show x.utf8Size + byteSize (xs ++ ys) = x.utf8Size + byteSize xs + byteSize ys
    rw [ih, Nat.add_assoc]

theorem byteSize_eq (cs : List Char) : byteSize cs = (String.ofList cs).utf8ByteSize := by
  induction cs with
  | nil => rfl
  | cons c cs ih =>
    have hcons : String.ofList (c :: cs) = String.singleton c ++ String.ofList cs := by
      rw [String.singleton_eq_ofList, ← String.ofList_append, List.singleton_append]
    show c.utf8Size + byteSize cs = _
    rw [ih, hcons, String.utf8ByteSize_append, String.utf8ByteSize_singleton]

def readAt (offset : Nat) (cs : List Char) : Except Fault (List Segment) :=
  segmentsAt offset (piecesBehind 0 cs)

def Piece.isSound : Piece → Bool
  | .char _ | .escape _ => true
  | .placeholder name => !name.isEmpty
  | .brace _ => false

def Piece.prepend : Piece → List Segment → List Segment
  | .char c, segments | .escape c, segments => addChar c segments
  | .placeholder name, segments => .column (String.ofList name) :: segments
  | .brace _, segments => segments

theorem Stands.readAt_eq (h : Stands p rest) (hp : p.isSound = true) (offset : Nat) :
    readAt offset (p.source ++ rest)
      = (readAt (offset + byteSize p.source) rest).map p.prepend := by
  unfold readAt
  rw [h.piecesBehind_eq]
  cases p with
  | char c => rfl
  | escape c => rfl
  | placeholder name =>
    cases name with
    | nil => cases hp
    | cons c name => rfl
  | brace c => cases hp

theorem Stands.isTemplate (h : Stands p rest) (hp : p.isSound = true) (hr : IsTemplate rest) :
    IsTemplate (p.source ++ rest) := by
  cases h with
  | char plain => exact .char plain hr
  | backslash lone => exact .backslash lone hr
  | escape sameLine => exact .escape sameLine hr
  | @placeholder name _ plain =>
    have hne : name ≠ [] := by
      rintro rfl
      cases hp
    have hcs : (Piece.placeholder name).source ++ rest = '{' :: name ++ '}' :: rest := by
      simp [Piece.source]
    rw [hcs]
    exact .placeholder hne plain hr
  | brace isBrace closed => cases hp

theorem readAt_of_isAt (h : f.IsAt offset cs) : readAt offset cs = .error f := by
  unfold readAt
  cases f with
  | emptyPlaceholder o =>
    obtain ⟨rfl, rest, rfl⟩ := h
    have hstands : Stands (.placeholder []) rest :=
      .placeholder fun c hc => absurd hc List.not_mem_nil
    exact congrArg (segmentsAt o) hstands.piecesBehind_eq
  | unbalanced brace o =>
    obtain ⟨rfl, hbrace, ⟨rest, rfl⟩, hclosed⟩ := h
    have hstands : Stands (.brace brace) rest := .brace hbrace hclosed
    exact congrArg (segmentsAt o) hstands.piecesBehind_eq

theorem Stands.exists_isAt (h : Stands p rest) (hp : p.isSound = false) (offset : Nat) :
    ∃ f : Fault, f.IsAt offset (p.source ++ rest) := by
  cases h with
  | char plain => cases hp
  | backslash lone => cases hp
  | escape sameLine => cases hp
  | @placeholder name _ plain =>
    cases name with
    | nil => exact ⟨.emptyPlaceholder offset, rfl, rest, rfl⟩
    | cons c name => cases hp
  | @brace c _ isBrace closed => exact ⟨.unbalanced c offset, rfl, isBrace, ⟨rest, rfl⟩, closed⟩

theorem Fault.IsAt.exists_brace (h : f.IsAt offset cs) :
    ∃ c tail, cs = c :: tail ∧ (c = '{' ∨ c = '}') := by
  cases f with
  | emptyPlaceholder o =>
    obtain ⟨-, tail, rfl⟩ := h
    exact ⟨'{', '}' :: tail, rfl, Or.inl rfl⟩
  | unbalanced brace o =>
    obtain ⟨-, hbrace, ⟨tail, rfl⟩, -⟩ := h
    exact ⟨brace, tail, rfl, hbrace⟩

theorem IsTemplate.pieceInduction {motive : List Char → Prop} (nil : motive [])
    (piece : ∀ p rest, Stands p rest → p.isSound = true → motive rest → motive (p.source ++ rest))
    (h : IsTemplate cs) : motive cs := by
  induction h with
  | nil => exact nil
  | char plain rest ih => exact piece _ _ (.char plain) rfl ih
  | backslash lone rest ih => exact piece _ _ (.backslash lone) rfl ih
  | escape sameLine rest ih => exact piece _ _ (.escape sameLine) rfl ih
  | @placeholder name cs nonempty plain rest ih =>
    have hsound : (Piece.placeholder name).isSound = true := by
      cases name with
      | nil => exact absurd rfl nonempty
      | cons c name => rfl
    have hmotive := piece _ _ (.placeholder plain) hsound ih
    rwa [Piece.source, List.append_assoc] at hmotive

theorem IsTemplate.exists_readAt (h : IsTemplate cs) (offset : Nat) :
    ∃ segments, readAt offset cs = .ok segments := by
  refine h.pieceInduction (motive := fun cs => ∀ offset, ∃ segments,
    readAt offset cs = .ok segments) (fun offset => ⟨[], rfl⟩) ?_ offset
  intro p rest hstands hsound ih offset
  obtain ⟨segments, hrest⟩ := ih (offset + byteSize p.source)
  exact ⟨p.prepend segments, by rw [hstands.readAt_eq hsound, hrest]; rfl⟩

/-- The piece takes what comes behind the text for its own, as a backslash at the end does. -/
def Piece.IsOpen (p : Piece) (rest : List Char) : Prop := p = .char '\\' ∧ rest = []

theorem Stands.escapes_iff (h : Stands p rest) (hp : p.isSound = true) :
    Escapes (p.source ++ rest) ↔ Escapes rest ∨ p.IsOpen rest := by
  cases h with
  | @char c _ plain =>
    have hopen : ¬(Piece.char c).IsOpen rest := fun hi => plain.2.2 (Piece.char.inj hi.1)
    rw [or_iff_left hopen]
    exact escapes_append_cons plain.2.2 [] rest
  | backslash lone =>
    rcases lone with rfl | ⟨tail, rfl⟩
    · exact ⟨fun _ => Or.inr ⟨rfl, rfl⟩, fun _ => rfl⟩
    · have hopen : ¬(Piece.char '\\').IsOpen (['\n'] ++ tail) := fun hi => nomatch hi.2
      rw [or_iff_left hopen]
      exact (escapes_escape '\n' tail).trans (escapes_append_cons (by decide) [] tail).symm
  | @escape c _ sameLine =>
    have hopen : ¬(Piece.escape c).IsOpen rest := fun hi => nomatch hi.1
    rw [or_iff_left hopen]
    exact escapes_escape c rest
  | @placeholder name _ plain =>
    have hopen : ¬(Piece.placeholder name).IsOpen rest := fun hi => nomatch hi.1
    rw [or_iff_left hopen, Piece.source, List.append_assoc]
    exact escapes_append_cons (by decide) ('{' :: name) rest
  | brace isBrace closed => cases hp

theorem Stands.append (h : Stands p before) (hp : p.isSound = true) (hopen : ¬p.IsOpen before)
    (rest : List Char) : Stands p (before ++ rest) := by
  cases h with
  | char plain => exact .char plain
  | backslash lone =>
    rcases lone with rfl | ⟨tail, rfl⟩
    · exact absurd ⟨rfl, rfl⟩ hopen
    · exact .backslash (Or.inr ⟨tail ++ rest, by rw [List.append_assoc]⟩)
  | escape sameLine => exact .escape sameLine
  | placeholder plain => exact .placeholder plain
  | brace isBrace closed => cases hp

theorem Stands.of_append (h : Stands p (before ++ rest)) (hp : p.isSound = true)
    (hf : f.IsAt offset rest) : Stands p before ∧ ¬p.IsOpen before := by
  obtain ⟨c, tail, rfl, hc⟩ := hf.exists_brace
  cases h with
  | @char d _ plain => exact ⟨.char plain, fun hi => plain.2.2 (Piece.char.inj hi.1)⟩
  | backslash lone =>
    -- the text behind the backslash begins with a line feed, so this is not the brace
    rcases lone with hnil | ⟨behind, hbehind⟩
    · exact absurd (List.append_eq_nil_iff.mp hnil).2 (List.cons_ne_nil c tail)
    · cases before with
      | nil =>
        obtain rfl : '\n' = c := (List.cons.inj hbehind).1
        rcases hc with hc | hc <;> cases hc
      | cons d before =>
        obtain rfl : '\n' = d := (List.cons.inj hbehind).1
        exact ⟨.backslash (Or.inr ⟨before, rfl⟩), fun hi => nomatch hi.2⟩
  | escape sameLine => exact ⟨.escape sameLine, fun hi => nomatch hi.1⟩
  | placeholder plain => exact ⟨.placeholder plain, fun hi => nomatch hi.1⟩
  | brace isBrace closed => cases hp

/-- Behind a text that is a template a fault is found, unless its brace is escaped. -/
theorem IsTemplate.readAt_append (h : IsTemplate before) (he : ¬Escapes before)
    (hf : f.IsAt (offset + byteSize before) rest) : readAt offset (before ++ rest) = .error f := by
  refine h.pieceInduction (motive := fun before => ∀ offset, ¬Escapes before →
    f.IsAt (offset + byteSize before) rest → readAt offset (before ++ rest) = .error f)
    (fun offset _ hf => readAt_of_isAt hf) ?_ offset he hf
  intro p before hstands hsound ih offset he hf
  rw [hstands.escapes_iff hsound, not_or] at he
  rw [byteSize_append, ← Nat.add_assoc] at hf
  have hread := (hstands.append hsound he.2 rest).readAt_eq hsound offset
  rw [List.append_assoc, hread, ih _ he.1 hf]
  rfl

theorem isTemplate_or_isAt (cs : List Char) (offset : Nat) :
    IsTemplate cs ∨ ∃ before rest f, cs = before ++ rest ∧ IsTemplate before ∧ ¬Escapes before
      ∧ Fault.IsAt (offset + byteSize before) rest f := by
  refine pieceInduction (motive := fun cs => ∀ offset, IsTemplate cs ∨ ∃ before rest f,
    cs = before ++ rest ∧ IsTemplate before ∧ ¬Escapes before
      ∧ Fault.IsAt (offset + byteSize before) rest f) (fun _ => Or.inl .nil) ?_ cs offset
  intro p rest hstands ih offset
  cases hsound : p.isSound with
  | false =>
    obtain ⟨f, hf⟩ := hstands.exists_isAt hsound offset
    have hnone : ¬Escapes [] := fun he => nomatch he
    exact Or.inr ⟨[], p.source ++ rest, f, rfl, .nil, hnone, hf⟩
  | true =>
    rcases ih (offset + byteSize p.source) with hrest | ⟨before, behind, f, rfl, hb, he, hf⟩
    · exact Or.inl (hstands.isTemplate hsound hrest)
    · obtain ⟨hfront, hopen⟩ := hstands.of_append hsound hf
      refine Or.inr ⟨p.source ++ before, behind, f, (List.append_assoc ..).symm,
        hfront.isTemplate hsound hb, ?_, ?_⟩
      · rw [hfront.escapes_iff hsound, not_or]
        exact ⟨he, hopen⟩
      · rw [byteSize_append, ← Nat.add_assoc]
        exact hf

theorem parse_eq (template : String) :
    parse template = (readAt 0 template.toList).mapError (⟨template, ·⟩) := rfl

theorem exists_parse_of_isTemplate {template : String} (h : IsTemplate template.toList) :
    ∃ segments, parse template = .ok segments := by
  obtain ⟨segments, hread⟩ := h.exists_readAt 0
  exact ⟨segments, by rw [parse_eq, hread]; rfl⟩

theorem parse_append {before rest : String} (hb : IsTemplate before.toList)
    (he : ¬Escapes before.toList) (hf : f.IsAt before.utf8ByteSize rest.toList) :
    parse (before ++ rest) = .error ⟨before ++ rest, f⟩ := by
  have hsize : before.utf8ByteSize = 0 + byteSize before.toList := by
    rw [byteSize_eq, String.ofList_toList, Nat.zero_add]
  rw [hsize] at hf
  rw [parse_eq, String.toList_append, hb.readAt_append he hf]
  rfl

theorem isTemplate_or_parse (template : String) :
    IsTemplate template.toList ∨ ∃ (before rest : String) (f : Fault), template = before ++ rest
      ∧ IsTemplate before.toList ∧ ¬Escapes before.toList
      ∧ f.IsAt before.utf8ByteSize rest.toList := by
  refine (isTemplate_or_isAt template.toList 0).imp_right ?_
  rintro ⟨before, rest, f, hcs, hb, he, hf⟩
  rw [Nat.zero_add, byteSize_eq] at hf
  refine ⟨String.ofList before, String.ofList rest, f, ?_, ?_⟩
  · rw [← String.ofList_append, ← hcs, String.ofList_toList]
  · rw [String.toList_ofList, String.toList_ofList]
    exact ⟨hb, he, hf⟩

theorem isTemplate_of_parse {template : String} {segments : List Segment}
    (h : parse template = .ok segments) : IsTemplate template.toList := by
  rcases isTemplate_or_parse template with ht | ⟨before, rest, f, rfl, hb, he, hf⟩
  · exact ht
  · rw [parse_append hb he hf] at h
    cases h

/-- Parsing succeeds exactly on the texts of the grammar. It fails exactly with a fault behind a
part of the text that is a template by itself and does not escape what comes behind it, and the
fault has the number of bytes of this part. -/
theorem parse_outcome (template : String) :
    ((∃ segments, parse template = .ok segments) ↔ IsTemplate template.toList)
    ∧ ∀ e, parse template = .error e ↔ e.template = template ∧ ∃ before rest : String,
      template = before ++ rest ∧ (∃ segments, parse before = .ok segments)
      ∧ ¬Escapes before.toList ∧ e.fault.IsAt before.utf8ByteSize rest.toList := by
  constructor
  · constructor
    · rintro ⟨segments, h⟩
      exact isTemplate_of_parse h
    · exact exists_parse_of_isTemplate
  · intro e
    constructor
    · intro h
      rcases isTemplate_or_parse template with ht | ⟨before, rest, f, rfl, hb, he, hf⟩
      · obtain ⟨segments, hok⟩ := exists_parse_of_isTemplate ht
        rw [hok] at h
        cases h
      · rw [parse_append hb he hf] at h
        obtain rfl := Except.error.inj h
        exact ⟨rfl, before, rest, rfl, exists_parse_of_isTemplate hb, he, hf⟩
    · rintro ⟨htemplate, before, rest, rfl, ⟨segments, hb⟩, he, hf⟩
      obtain ⟨template, f⟩ := e
      obtain rfl : template = before ++ rest := htemplate
      exact parse_append (isTemplate_of_parse hb) he hf

example : parse "\\\\\x7bé\x7d\\\x7b\x7b\x7d"
    = .error ⟨"\\\\\x7bé\x7d\\\x7b\x7b\x7d", .emptyPlaceholder 8⟩ := by decide +kernel

end TriplesSql.Template
