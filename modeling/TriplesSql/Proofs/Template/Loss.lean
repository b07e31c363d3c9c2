import TriplesSql.Proofs.Template.Recovery

/-!
# Templates that lose values

A template loses a value if a name is repeated in it, or if a text between neighbouring placeholders
is empty or begins with a digit. The values that show it have one character for each placeholder but
one; the piece of this one is such that an end of it can go to the next placeholder.
-/

namespace TriplesSql.Template

open Text

variable {front segments back : List Segment} {own pieces first : List (List Char)}
  {sep cs : List Char} {name : String}

theorem mem_separators_append (h : sep ∈ separators segments) :
    sep ∈ separators (front ++ segments) := by
  induction front with
  | nil => exact h
  | cons segment front ih =>
    cases segment with
    | literal text => exact ih
    | column other => exact List.mem_append_right _ ih

theorem exists_of_mem_separators (h : sep ∈ separators segments) :
    ∃ front name back, segments = front ++ .column name :: back ∧ gap? back = some sep
      ∧ sep ∉ separators back := by
  induction segments with
  | nil => cases h
  | cons segment segments ih =>
    by_cases hm : sep ∈ separators segments
    · obtain ⟨front, name, back, rfl, hback⟩ := ih hm
      exact ⟨segment :: front, name, back, rfl, hback⟩
    · cases segment with
      | literal text => exact absurd h hm
      | column name =>
        rcases List.mem_append.mp h with hgap | hrest
        · exact ⟨[], name, segments, rfl, Option.mem_toList.mp hgap, hm⟩
        · exact absurd hrest hm

theorem exists_column_of_gap? {gap : List Char} (h : gap? segments = some gap) :
    ∃ name back, separators segments = separators (.column name :: back)
      ∧ ∀ pieces cs,
        Splits segments pieces (gap ++ cs) ↔ Splits (.column name :: back) pieces cs := by
  induction segments generalizing gap with
  | nil => cases h
  | cons segment segments ih =>
    cases segment with
    | literal text =>
      obtain ⟨gap', hg', rfl⟩ := Option.map_eq_some_iff.mp h
      obtain ⟨name, back, hseps, hiff⟩ := ih hg'
      refine ⟨name, back, hseps, fun pieces cs => ?_⟩
      rw [← hiff, splits_literal_iff, List.append_assoc]
      simp only [List.append_cancel_left_eq, exists_eq_left']
    | column name =>
      obtain rfl : [] = gap := Option.some.inj h
      exact ⟨name, segments, rfl, fun pieces cs => Iff.rfl⟩

def seven (_ : String) : List Char := ['7']

theorem seven_short (name : String) : (seven name).length = 1 ∧ '\n' ∉ seven name := by
  unfold seven
  decide

theorem decode?_seven : Percent.decode? ['7'] = some "7" := by decide +kernel

theorem decode?_map_seven (names : List String) :
    ∀ piece ∈ names.map seven, Percent.decode? piece ≠ none := by
  intro piece hm
  obtain ⟨name, -, rfl⟩ := List.mem_map.mp hm
  exact Option.ne_none_iff_exists'.mpr ⟨_, decode?_seven⟩

theorem splits_seven (segments : List Segment) :
    Splits segments ((placeholders segments).map seven) (fill seven segments) :=
  splits_fill fun name _ => ⟨List.cons_ne_nil _ _, (seven_short name).2⟩

theorem Recovers.exists_isFirstSplit (h : Recovers segments) (hn : (placeholders segments).Nodup)
    (hown : Splits segments own cs) (hall : ∀ piece ∈ own, Percent.decode? piece ≠ none) :
    ∃ first, IsFirstSplit segments first cs ∧ ∀ piece ∈ first, Percent.decode? piece ≠ none := by
  obtain ⟨first, hfirst⟩ := hown.exists_isFirstSplit
  have hkeep := h _ _ _ hown ((not_conflicts_iff_of_nodup hn hown).mpr hall) hfirst
  exact ⟨first, hfirst, (not_conflicts_iff_of_nodup hn hfirst.splits).mp hkeep⟩

theorem Recovers.of_append (h : Recovers (front ++ segments))
    (hn : (placeholders (front ++ segments)).Nodup) : Recovers segments := by
  intro cs own first hown hc hf
  have hnodup : (placeholders segments).Nodup :=
    (placeholders_append front segments ▸ hn).of_append_right
  rw [not_conflicts_iff_of_nodup hnodup hown] at hc
  rw [not_conflicts_iff_of_nodup hnodup hf.splits]
  obtain ⟨both, hboth, hall⟩ := h.exists_isFirstSplit hn ((splits_seven front).append hown)
    (List.forall_mem_append.mpr ⟨decode?_map_seven _, hc⟩)
  have hfirst := hf.append_fill front seven fun name _ => seven_short name
  rw [hboth.unique hfirst, List.forall_mem_append] at hall
  exact hall.2

theorem IsFirstSplit.exists_eq_cons {x : List Char} (hx : x ≠ []) (hline : '\n' ∉ x)
    (hgap : ∀ gap ∈ gap? back, ∃ c rest, gap = c :: rest ∧ c ∉ x) (h : Splits back own cs)
    (hf : IsFirstSplit (.column name :: back) first (x ++ cs)) : ∃ tail, first = x :: tail := by
  obtain ⟨piece, tail, rest, rfl, hcs, hftail, hshort⟩ := hf.of_column
  have hbegin : piece <+: x := List.prefix_of_prefix_length_le ⟨rest, hcs.symm⟩
    (List.prefix_append x cs) (hshort x own (.column hx hline h))
  obtain ⟨w, rfl⟩ := hbegin
  rw [List.append_assoc, List.append_cancel_left_eq] at hcs
  subst hcs
  cases w with
  | nil => exact ⟨tail, by rw [List.append_nil]⟩
  | cons d w =>
    obtain ⟨gap, hg, hpre⟩ :=
      exists_gap?_of_splits_append (List.cons_ne_nil d w) h hftail.splits
    obtain ⟨c, rest, rfl, hc⟩ := hgap gap hg
    obtain ⟨rfl, -⟩ := List.cons_prefix_cons.mp hpre
    exact absurd (List.mem_append_right piece List.mem_cons_self) hc

theorem not_recovers_of_digit {c : Char} {rest : List Char} (hg : gap? back = some (c :: rest))
    (hc : Hexadecimal.value? c ≠ none) (hline : '\n' ∉ c :: rest) (hpercent : '%' ∉ c :: rest)
    (hn : (placeholders (.column name :: back)).Nodup) : ¬Recovers (.column name :: back) := by
  intro h
  obtain ⟨x, hx, hxline, hxc, hnone, hopen⟩ := Percent.exists_open hc
  have hback := splits_seven back
  -- the own piece goes on with the next text and one character
  have hwline : '\n' ∉ c :: rest ++ ['7'] := by simpa using hline
  obtain ⟨z, next, tail, -, -, hearly⟩ := exists_splits_append hg hback (List.cons_ne_nil _ _)
    hwline ⟨'7' :: c :: rest, by simp⟩
  have hown : Splits (.column name :: back)
      ((x ++ (c :: rest ++ ['7'])) :: (placeholders back).map seven)
      (x ++ (c :: rest ++ ['7']) ++ fill seven back) := by
    refine .column (List.append_ne_nil_of_left_ne_nil hx _) ?_ hback
    rw [List.mem_append, not_or]
    exact ⟨hxline, hwline⟩
  have htext : Percent.decode? (x ++ (c :: rest ++ ['7'])) ≠ none := by
    rw [Percent.decode?_ne_none_iff]
    refine hopen _ (Percent.isUtf8_bytes_of_not_mem ?_)
    simp only [List.mem_cons, not_or] at hpercent
    simp [hpercent.2]
  obtain ⟨first, hfirst, hkeep⟩ := h.exists_isFirstSplit hn hown
    (List.forall_mem_cons.mpr ⟨htext, decode?_map_seven _⟩)
  have hgap : ∀ gap ∈ gap? back, ∃ d gs, gap = d :: gs ∧ d ∉ x := by
    intro gap hm
    obtain rfl := Option.some.inj (hg.symm.trans hm)
    exact ⟨c, rest, rfl, hxc⟩
  rw [List.append_assoc] at hfirst
  obtain ⟨tail, rfl⟩ := hfirst.exists_eq_cons hx hxline hgap hearly
  exact hkeep x List.mem_cons_self hnone

def twoBytes : List Char := ['%', 'C', '3', '%', 'A', '9']

def leftOver : List Char := ['C', '3', '%', 'A', '9', '7']

theorem mem_leftOver {c : Char} (h : c ∈ leftOver) (hc : Hexadecimal.value? c = none) :
    c = '%' := by
  have hdigits : ∀ d ∈ leftOver, Hexadecimal.value? d = none → d = '%' := by
    simp [leftOver, Hexadecimal.value?]
  exact hdigits c h hc

theorem decode?_leftOver : Percent.decode? leftOver = none := by decide +kernel

/-- Of the two bytes of a character the next piece takes the second one with it, if no text stands
between. -/
theorem not_recovers_of_empty (hg : gap? back = some [])
    (hs : ∀ sep ∈ separators back, '%' ∉ sep
      ∧ ∃ c rest, sep = c :: rest ∧ Hexadecimal.value? c = none)
    (hn : (placeholders (.column name :: back)).Nodup) : ¬Recovers (.column name :: back) := by
  intro h
  obtain ⟨next, rest, hseps, hiff⟩ := exists_column_of_gap? hg
  have hrest := splits_seven rest
  have hown : Splits (.column name :: back)
      (twoBytes :: ['7'] :: (placeholders rest).map seven)
      (twoBytes ++ (['7'] ++ fill seven rest)) :=
    .column (by decide) (by decide) ((hiff _ _).mpr (.column (by decide) (by decide) hrest))
  have htexts : ∀ piece ∈ twoBytes :: ['7'] :: (placeholders rest).map seven,
      Percent.decode? piece ≠ none := by
    refine List.forall_mem_cons.mpr ⟨?_, List.forall_mem_cons.mpr ⟨?_, decode?_map_seven _⟩⟩
    · decide +kernel
    · decide +kernel
  obtain ⟨first, hfirst, hkeep⟩ := h.exists_isFirstSplit hn hown htexts
  -- the first piece is the percent sign, and the next one goes on to its own character
  have hmoved : Splits back (leftOver :: (placeholders rest).map seven)
      (leftOver ++ fill seven rest) :=
    (hiff _ _).mpr (.column (by decide) (by decide) hrest)
  obtain ⟨tail, htail⟩ := hmoved.exists_isFirstSplit
  have hpercent : Splits [.column name] [['%']] ['%'] := .column (by decide) (by decide) .nil
  have hunique := hfirst.unique (htail.append_short hpercent (by decide))
  subst hunique
  have hnext : IsFirstSplit (.column next :: rest) tail (leftOver ++ fill seven rest) :=
    ⟨(hiff _ _).mp htail.splits, fun other ho => htail.least other ((hiff _ _).mpr ho)⟩
  have hgap : ∀ gap ∈ gap? rest, ∃ c gs, gap = c :: gs ∧ c ∉ leftOver := by
    intro gap hm
    have hsep : gap ∈ separators back :=
      hseps ▸ List.mem_append_left _ (Option.mem_toList.mpr hm)
    obtain ⟨hno, c, gs, rfl, hc⟩ := hs gap hsep
    refine ⟨c, gs, rfl, fun hmem => ?_⟩
    obtain rfl := mem_leftOver hmem hc
    exact hno List.mem_cons_self
  obtain ⟨others, rfl⟩ := hnext.exists_eq_cons (by decide) (by decide) hgap hrest
  exact hkeep _ (List.mem_cons_of_mem _ List.mem_cons_self) decode?_leftOver

theorem exists_of_mem_placeholders (h : name ∈ placeholders segments) :
    ∃ front back, segments = front ++ .column name :: back ∧ name ∉ placeholders front := by
  induction segments with
  | nil => cases h
  | cons segment segments ih =>
    cases segment with
    | literal text =>
      obtain ⟨front, back, rfl, hno⟩ := ih h
      exact ⟨.literal text :: front, back, rfl, hno⟩
    | column other =>
      by_cases he : name = other
      · subst he
        exact ⟨[], segments, rfl, List.not_mem_nil⟩
      · obtain ⟨front, back, rfl, hno⟩ := ih (List.mem_of_ne_of_mem he h)
        exact ⟨.column other :: front, back, rfl, List.not_mem_cons_of_ne_of_not_mem he hno⟩

theorem exists_of_not_nodup (h : ¬(placeholders segments).Nodup) :
    ∃ name front between back,
      segments = front ++ .column name :: (between ++ .column name :: back)
        ∧ name ∉ placeholders front ∧ name ∉ placeholders between := by
  induction segments with
  | nil => exact absurd List.nodup_nil h
  | cons segment segments ih =>
    cases segment with
    | literal text =>
      obtain ⟨name, front, between, back, rfl, hno⟩ := ih h
      exact ⟨name, .literal text :: front, between, back, rfl, hno⟩
    | column other =>
      by_cases hm : other ∈ placeholders segments
      · obtain ⟨between, back, rfl, hno⟩ := exists_of_mem_placeholders hm
        exact ⟨other, [], between, back, rfl, List.not_mem_nil, hno⟩
      · obtain ⟨name, front, between, back, rfl, hfront, hbetween⟩ :=
          ih fun hn => h (List.nodup_cons.mpr ⟨hm, hn⟩)
        refine ⟨name, .column other :: front, between, back, rfl, ?_, hbetween⟩
        refine List.not_mem_cons_of_ne_of_not_mem ?_ hfront
        rintro rfl
        refine hm ?_
        rw [placeholders_append]
        exact List.mem_append_right _ List.mem_cons_self

theorem exists_gap?_append (between : List Segment) (name : String) (back : List Segment) :
    ∃ gap, gap? (between ++ .column name :: back) = some gap := by
  induction between with
  | nil => exact ⟨[], rfl⟩
  | cons segment between ih =>
    cases segment with
    | literal text =>
      obtain ⟨gap, hg⟩ := ih
      exact ⟨text.toList ++ gap, congrArg (Option.map _) hg⟩
    | column other => exact ⟨[], rfl⟩

theorem mem_fill_seven {c : Char} {between : List Segment} (h : c ∈ fill seven between)
    (before after : String) (back : List Segment) :
    c = '7' ∨ ∃ sep ∈ separators (.column before :: (between ++ .column after :: back)),
      c ∈ sep := by
  induction between generalizing before with
  | nil => cases h
  | cons segment between ih =>
    cases segment with
    | literal text =>
      obtain ⟨gap, hg⟩ := exists_gap?_append between after back
      have hseps : separators
          (.column before :: (.literal text :: between ++ .column after :: back))
            = (text.toList ++ gap) :: separators (between ++ .column after :: back) := by
        simp only [separators, List.cons_append, gap?, hg]
        rfl
      rw [hseps]
      rcases List.mem_append.mp h with htext | hrest
      · exact Or.inr ⟨_, List.mem_cons_self, List.mem_append_left _ htext⟩
      · refine (ih hrest before).imp_right ?_
        rintro ⟨sep, hsep, hc⟩
        rw [separators, hg] at hsep
        rcases List.mem_cons.mp hsep with rfl | hsep
        · exact ⟨_, List.mem_cons_self, List.mem_append_right _ hc⟩
        · exact ⟨sep, List.mem_cons_of_mem _ hsep, hc⟩
    | column other =>
      rcases List.mem_cons.mp h with rfl | hrest
      · exact Or.inl rfl
      · refine (ih hrest other).imp_right ?_
        rintro ⟨sep, hsep, hc⟩
        exact ⟨sep, List.mem_append_right _ hsep, hc⟩

/-- One character for each name but one, which has what stands between two places of it as well. -/
def repeating (name : String) (between : List Segment) (other : String) : List Char :=
  if other = name then '7' :: (fill seven between ++ ['8']) else seven other

theorem repeating_self (name : String) (between : List Segment) :
    repeating name between name = '7' :: (fill seven between ++ ['8']) := if_pos rfl

theorem fill_repeating_of_not_mem (between : List Segment) (h : name ∉ placeholders segments) :
    fill (repeating name between) segments = fill seven segments :=
  fill_congr fun _ hm => if_neg (ne_of_mem_of_not_mem hm h)

theorem repeating_valid {between : List Segment} (hline : '\n' ∉ fill seven between)
    (hpercent : '%' ∉ fill seven between) (name other : String) :
    (repeating name between other ≠ [] ∧ '\n' ∉ repeating name between other)
      ∧ Percent.decode? (repeating name between other) ≠ none := by
  unfold repeating
  split
  · refine ⟨⟨List.cons_ne_nil _ _, by simpa using hline⟩, ?_⟩
    rw [Percent.decode?_ne_none_iff]
    exact Percent.isUtf8_bytes_of_not_mem (by simpa using hpercent)
  · refine ⟨⟨List.cons_ne_nil _ _, (seven_short other).2⟩, ?_⟩
    exact Option.ne_none_iff_exists'.mpr ⟨_, decode?_seven⟩

theorem fill_repeating {between : List Segment} (hfront : name ∉ placeholders front)
    (hbetween : name ∉ placeholders between) (back : List Segment) :
    fill (repeating name between) (front ++ .column name :: (between ++ .column name :: back))
      = fill seven (front ++ .column name :: between)
        ++ ('8' :: (fill seven between ++ repeating name between name)
          ++ fill (repeating name between) back) := by
  simp only [fill_append, fill, fill_repeating_of_not_mem between hfront,
    fill_repeating_of_not_mem between hbetween, repeating_self, seven, List.append_assoc,
    List.cons_append, List.nil_append]

theorem not_conflicts_map {piece : String → List Char} (names : List String)
    (h : ∀ name ∈ names, Percent.decode? (piece name) ≠ none) :
    ¬Conflicts (names.zip (names.map piece)) := by
  rw [← List.map_prod_left_eq_zip]
  rintro (⟨x, hx, hnone⟩ | ⟨x, hx, y, hy, hname, hne⟩)
  · obtain ⟨name, hm, rfl⟩ := List.mem_map.mp hx
    exact h name hm hnone
  · obtain ⟨name, -, rfl⟩ := List.mem_map.mp hx
    obtain ⟨other, -, rfl⟩ := List.mem_map.mp hy
    obtain rfl : name = other := hname
    exact hne rfl

theorem decode?_eight_ne (cs : List Char) :
    Percent.decode? ('8' :: cs) ≠ Percent.decode? ['7'] := by
  rw [decode?_seven, ne_eq, Percent.decode?_eq_some_iff, Percent.bytes_cons (by decide)]
  intro h
  have hbytes : String.utf8EncodeChar '8' ++ Percent.bytes cs = String.utf8EncodeChar '7' ++ [] := h
  exact absurd (Percent.utf8EncodeChar_append_inj hbytes).1 (by decide)

theorem conflicts_of_eight {piece : List Char} {tail : List (List Char)}
    (h : name ∈ placeholders front) :
    Conflicts ((placeholders (front ++ .column name :: back)).zip
      ((placeholders front).map seven ++ ('8' :: piece) :: tail)) := by
  rw [placeholders_append, List.zip_append (List.length_map _).symm, ← List.map_prod_left_eq_zip]
  have hfirst : (name, ['7']) ∈ (placeholders front).map fun other => (other, seven other) :=
    List.mem_map.mpr ⟨name, h, rfl⟩
  exact Or.inr ⟨(name, '8' :: piece), List.mem_append_right _ List.mem_cons_self, (name, ['7']),
    List.mem_append_left _ hfirst, rfl, decode?_eight_ne piece⟩

/-- The first way gives one character to the first place of the name, so that the piece at the
second place begins within the value at the first one. -/
theorem not_recovers_of_repeated {between : List Segment} (hfront : name ∉ placeholders front)
    (hbetween : name ∉ placeholders between)
    (hs : ∀ sep ∈ separators (front ++ .column name :: (between ++ .column name :: back)),
      '%' ∉ sep ∧ '\n' ∉ sep) :
    ¬Recovers (front ++ .column name :: (between ++ .column name :: back)) := by
  intro h
  have hplain : ∀ c ∈ fill seven between, c ≠ '%' ∧ c ≠ '\n' := by
    intro c hc
    rcases mem_fill_seven hc name name back with rfl | ⟨sep, hsep, hc⟩
    · decide
    · obtain ⟨hpercent, hline⟩ := hs sep (mem_separators_append hsep)
      exact ⟨fun he => hpercent (he ▸ hc), fun he => hline (he ▸ hc)⟩
  have hpercent : '%' ∉ fill seven between := fun hm => (hplain _ hm).1 rfl
  have hline : '\n' ∉ fill seven between := fun hm => (hplain _ hm).2 rfl
  have hvalid := repeating_valid hline hpercent name
  have hown : Splits _ _ (fill (repeating name between)
      (front ++ .column name :: (between ++ .column name :: back))) :=
    splits_fill fun other _ => (hvalid other).1
  -- behind one character for each name up to the second place, the value goes on with an 8
  have hbehind : Splits (.column name :: back)
      (('8' :: (fill seven between ++ repeating name between name))
        :: (placeholders back).map (repeating name between))
      ('8' :: (fill seven between ++ repeating name between name)
        ++ fill (repeating name between) back) := by
    refine .column (List.cons_ne_nil _ _) ?_ (splits_fill fun other _ => (hvalid other).1)
    have hname := (hvalid name).1.2
    simp [hname, hline]
  obtain ⟨first, hfirst⟩ := hbehind.exists_isFirstSplit
  obtain ⟨piece, tail, rest, rfl, hcs, hne, -, -⟩ := splits_column_iff.mp hfirst.splits
  have hall := hfirst.append_fill (front ++ .column name :: between) seven fun other _ =>
    seven_short other
  rw [← fill_repeating hfront hbetween, List.append_assoc, List.cons_append] at hall
  have hkeep := h _ _ _ hown (not_conflicts_map _ fun other _ => (hvalid other).2) hall
  rw [← List.cons_append, ← List.append_assoc] at hkeep
  cases piece with
  | nil => exact hne rfl
  | cons d piece =>
    obtain ⟨rfl, -⟩ := List.cons.inj hcs
    refine hkeep (conflicts_of_eight ?_)
    rw [placeholders_append]
    exact List.mem_append_right _ List.mem_cons_self

theorem recovers_iff_of_plain (hs : ∀ sep ∈ separators segments, '%' ∉ sep ∧ '\n' ∉ sep) :
    Recovers segments ↔ (placeholders segments).Nodup
      ∧ ∀ sep ∈ separators segments, ∃ c rest, sep = c :: rest ∧ Hexadecimal.value? c = none := by
  constructor
  · intro h
    have hn : (placeholders segments).Nodup := by
      by_contra hn
      obtain ⟨name, front, between, back, rfl, hfront, hbetween⟩ := exists_of_not_nodup hn
      exact not_recovers_of_repeated hfront hbetween hs h
    have hdigit : ∀ c rest, c :: rest ∈ separators segments → Hexadecimal.value? c = none := by
      intro c rest hsep
      by_contra hc
      obtain ⟨front, name, back, rfl, hg, -⟩ := exists_of_mem_separators hsep
      have hnames := (placeholders_append front _ ▸ hn).of_append_right
      exact not_recovers_of_digit hg hc (hs _ hsep).2 (hs _ hsep).1 hnames (h.of_append hn)
    refine ⟨hn, fun sep hsep => ?_⟩
    cases sep with
    | cons c rest => exact ⟨c, rest, rfl, hdigit c rest hsep⟩
    | nil =>
      -- behind the last empty text all texts begin with a character that is no digit
      obtain ⟨front, name, back, rfl, hg, hlast⟩ := exists_of_mem_separators hsep
      have hnames := (placeholders_append front _ ▸ hn).of_append_right
      refine absurd (h.of_append hn) (not_recovers_of_empty hg (fun sep hm => ?_) hnames)
      have hm' : sep ∈ separators (front ++ .column name :: back) :=
        mem_separators_append (List.mem_append_right _ hm)
      cases sep with
      | nil => exact absurd hm hlast
      | cons c rest => exact ⟨(hs _ hm').1, c, rest, rfl, hdigit c rest hm'⟩
  · rintro ⟨hn, hdigit⟩
    exact recovers_of_nodup hn fun sep hm => ⟨(hs sep hm).1, hdigit sep hm⟩

/-- A value has bindings exactly if the pieces of some way do not conflict and that way is the first
one. Where the texts between neighbouring placeholders have no percent sign and no line feed, each
value with some such way has bindings exactly if no name is repeated and each of these texts begins
with a character that is no hexadecimal digit. -/
theorem bindings?_of_consistent_iff {template : String} (hp : parse template = .ok segments) :
    (∀ value : String, bindings? template value ≠ none
      ↔ ∃ pieces, Splits segments pieces value.toList
        ∧ ¬Conflicts ((placeholders segments).zip pieces)
        ∧ ∀ other, Splits segments other value.toList → other = pieces ∨ Earlier pieces other)
    ∧ ((∀ sep ∈ separators segments, '%' ∉ sep ∧ '\n' ∉ sep) →
      ((∀ value : String, (∃ pieces, Splits segments pieces value.toList
          ∧ ¬Conflicts ((placeholders segments).zip pieces)) → bindings? template value ≠ none)
        ↔ (placeholders segments).Nodup
          ∧ ∀ sep ∈ separators segments,
            ∃ c rest, sep = c :: rest ∧ Hexadecimal.value? c = none)) := by
  refine ⟨fun value => ?_, fun hs => ?_⟩
  · rw [bindings?_ne_none_iff hp]
    refine exists_congr fun pieces => ?_
    rw [isFirstSplit_iff, and_assoc]
    exact and_congr_right fun _ => and_comm
  · rw [recovers_iff hp, recovers_iff_of_plain hs]

theorem bindings?_of_consistent_staff :
    bindings? staffTemplate (render staffRow staffSegments) ≠ none := by
  have hslash : ∀ sep ∈ separators staffSegments, sep = ['/'] :=
    fun sep hm => List.mem_singleton.mp hm
  refine ((bindings?_of_consistent_iff parse_staffTemplate).2 (fun sep hm => ?_)).mpr
    ⟨by decide, fun sep hm => ⟨'/', [], hslash sep hm, by decide⟩⟩ _
    ⟨_, splits_render fun name _ => staffRow_ne_empty name,
      not_conflicts_iff.mpr ⟨staffRow, carries_rowPieces staffRow staffSegments⟩⟩
  rw [hslash sep hm]
  decide

/-- The value 1-2-1-2 has the text 1-2 at both places of the name, but is taken apart into 1 and
2-1-2. -/
theorem not_forall_bindings?_of_consistent :
    ¬∀ (template : String) (segments : List Segment) (value : String) (pieces : List (List Char)),
      parse template = .ok segments → Splits segments pieces value.toList →
      ¬Conflicts ((placeholders segments).zip pieces) → bindings? template value ≠ none := by
  intro h
  have hparse : parse "\x7bid\x7d-\x7bid\x7d"
      = .ok [.column "id", .literal "-", .column "id"] := by
    decide +kernel
  have hnone : bindings? "\x7bid\x7d-\x7bid\x7d"
      (render (fun _ => "1-2") [.column "id", .literal "-", .column "id"]) = none := by
    decide +kernel
  have hne : "1-2" ≠ "" := by decide
  exact h _ _ _ _ hparse (splits_render fun _ _ => hne)
    (not_conflicts_iff.mpr ⟨_, carries_rowPieces _ _⟩) hnone

end TriplesSql.Template
