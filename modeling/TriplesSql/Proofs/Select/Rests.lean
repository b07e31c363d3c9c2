import Mathlib.Data.List.TakeDrop
import TriplesSql.Select.Lexer

/-!
# What reading leaves of a text

Each of the lexical rules looks at the front of a text and leaves an end of it, whether it reads a
lexeme, a blank or a comment. So where the reading of a text comes to is always an end of the text.
-/

namespace TriplesSql.Select

variable {α β : Type} {d : Dialect} {c : Char} {cs cs' rest : List Char}

/-- What is left, if anything is read, is an end of the text. -/
def Leaves (cs : List Char) (found : Option (α × List Char)) : Prop :=
  ∀ t rest, found = some (t, rest) → rest <:+ cs

theorem leaves_none : Leaves cs (none : Option (α × List Char)) := nofun

theorem leaves_some {t : α} (h : rest <:+ cs) : Leaves cs (some (t, rest)) := by
  rintro _ _ ⟨⟩
  exact h

theorem Leaves.mono {found : Option (α × List Char)} (h : Leaves cs found) (hcs : cs <:+ cs') :
    Leaves cs' found :=
  fun t rest hfound => (h t rest hfound).trans hcs

theorem Leaves.cons {found : Option (α × List Char)} (h : Leaves cs found) (c : Char) :
    Leaves (c :: cs) found :=
  h.mono (List.suffix_cons c cs)

theorem Leaves.map {found : Option (α × List Char)} (h : Leaves cs found)
    {f : α × List Char → β × List Char} (hf : ∀ t rest, (f (t, rest)).2 = rest) :
    Leaves cs (found.map f) := by
  intro t rest hfound
  obtain ⟨⟨s, left⟩, hread, heq⟩ := Option.map_eq_some_iff.mp hfound
  have hrest : left = rest := by rw [← hf s left, heq]
  exact hrest ▸ h s left hread

theorem Leaves.bind {found : Option (α × List Char)} (h : Leaves cs found)
    {f : α × List Char → Option (β × List Char)} (hf : ∀ t rest, Leaves rest (f (t, rest))) :
    Leaves cs (found.bind f) := by
  intro t rest hfound
  obtain ⟨⟨s, left⟩, hread, hnext⟩ := Option.bind_eq_some_iff.mp hfound
  exact (hf s left t rest hnext).trans (h s left hread)

theorem Leaves.ite {p : Prop} [Decidable p] {x y : Option (α × List Char)} (hx : Leaves cs x)
    (hy : Leaves cs y) : Leaves cs (if p then x else y) := by
  split
  · exact hx
  · exact hy

theorem leaves_map_drop (o : Option α) (n : Nat) (cs : List Char) :
    Leaves cs (o.map (·, cs.drop n)) := by
  intro t rest h
  obtain ⟨_, -, heq⟩ := Option.map_eq_some_iff.mp h
  obtain ⟨-, rfl⟩ := Prod.mk.inj heq
  exact List.drop_suffix n cs

theorem span_snd_suffix (p : Char → Bool) (cs : List Char) : (cs.span p).2 <:+ cs := by
  rw [List.span_eq_takeWhile_dropWhile]
  exact List.dropWhile_suffix p

theorem leaves_closeString (q : Char) (escapes : Bool) (cs : List Char) :
    Leaves cs (closeString q escapes cs) := by
  fun_induction closeString q escapes cs with
  | case1 => exact leaves_none
  | case2 => exact leaves_some List.nil_suffix
  | case3 => exact leaves_none
  | case4 cs ih => exact ((ih.map fun _ _ => rfl).cons _).cons _
  | case5 c cs => exact leaves_some (List.suffix_cons ..)
  | case6 c c' cs _ _ ih => exact ((ih.map fun _ _ => rfl).cons _).cons _
  | case7 c c' cs _ _ ih => exact (ih.map fun _ _ => rfl).cons _

theorem leaves_named (count : Nat) (cs : List Char) : Leaves cs (letterEscape.named count cs) := by
  simp only [letterEscape.named]
  split
  · exact leaves_none
  · exact leaves_map_drop _ count cs

theorem leaves_letterEscape (cs : List Char) : Leaves cs (letterEscape cs) := by
  unfold letterEscape
  split
  · exact leaves_none
  · exact (leaves_named 4 _).cons _
  · exact (leaves_named 8 _).cons _
  · refine Leaves.cons ?_ _
    dsimp only
    split
    · exact leaves_some List.suffix_rfl
    · exact leaves_map_drop _ _ _
  · refine Leaves.cons ?_ _
    split
    · exact leaves_map_drop _ _ _
    · exact leaves_some List.suffix_rfl

theorem leaves_closeEscaped (fuel : Nat) (cs : List Char) : Leaves cs (closeEscaped fuel cs) := by
  fun_induction closeEscaped fuel cs with
  | case1 => exact leaves_none
  | case2 => exact leaves_none
  | case3 fuel cs ih => exact ((ih.map fun _ _ => rfl).cons _).cons _
  | case4 => exact leaves_some (List.suffix_cons ..)
  | case5 fuel cs ih =>
    refine ((leaves_letterEscape cs).bind fun c rest => ?_).cons _
    dsimp only
    split
    · exact leaves_none
    · exact (ih rest).bind fun _ _ => leaves_some List.suffix_rfl
  | case6 fuel c cs _ _ _ ih => exact (ih.map fun _ _ => rfl).cons _

theorem leaves_codePoint (count : Nat) (cs : List Char) : Leaves cs (codePoint count cs) := by
  intro t rest h
  unfold codePoint at h
  dsimp only at h
  split at h
  · cases h
  · obtain ⟨n, -, h⟩ := Option.bind_eq_some_iff.mp h
    obtain ⟨c, -, heq⟩ := Option.bind_eq_some_iff.mp h
    obtain ⟨-, rfl⟩ := Prod.mk.inj (Option.some.inj heq)
    exact List.drop_suffix count cs

theorem leaves_closeUnicode (fuel : Nat) (cs : List Char) : Leaves cs (closeUnicode fuel cs) := by
  fun_induction closeUnicode fuel cs with
  | case1 => exact leaves_none
  | case2 => exact leaves_none
  | case3 fuel cs ih => exact ((ih.map fun _ _ => rfl).cons _).cons _
  | case4 => exact leaves_some (List.suffix_cons ..)
  | case5 fuel next cs ih =>
    have hnext : Leaves cs (next ('\\', cs)) := by
      refine Leaves.bind (ih cs) fun _ _ => ?_
      exact leaves_some List.suffix_rfl
    exact (hnext.cons _).cons _
  | case6 fuel next cs ih =>
    have hread : Leaves cs (codePoint 6 cs >>= next) := by
      refine (leaves_codePoint 6 cs).bind fun _ rest => Leaves.bind (ih rest) fun _ _ => ?_
      exact leaves_some List.suffix_rfl
    exact (hread.cons _).cons _
  | case7 fuel next cs _ _ ih =>
    have hread : Leaves cs (codePoint 4 cs >>= next) := by
      refine (leaves_codePoint 4 cs).bind fun _ rest => Leaves.bind (ih rest) fun _ _ => ?_
      exact leaves_some List.suffix_rfl
    exact hread.cons _
  | case8 fuel c cs _ _ _ ih => exact (ih.map fun _ _ => rfl).cons _

theorem leaves_afterBlockComment (t : α) (n : Nat) (before : Char) (cs : List Char) :
    Leaves cs ((afterBlockComment n before cs).map fun rest => (t, rest)) := by
  fun_induction afterBlockComment n before cs with
  | case1 => exact leaves_none
  | case2 n before c cs _ ih => exact ih.cons c
  | case3 before c cs => exact leaves_some (List.suffix_cons c cs)
  | case4 before c cs _ _ n ih => exact ih.cons c
  | case5 n before c cs _ _ ih => exact ih.cons c

theorem afterLineComment_suffix (cs : List Char) : afterLineComment cs <:+ cs :=
  (List.drop_suffix 1 _).trans (List.dropWhile_suffix _)

theorem leaves_closeDollars (cs : List Char) : Leaves cs (closeDollars cs) := by
  fun_induction closeDollars cs with
  | case1 => exact leaves_none
  | case2 cs => exact leaves_some ((List.suffix_cons ..).trans (List.suffix_cons ..))
  | case3 c cs _ ih => exact (ih.map fun _ _ => rfl).cons _

theorem suffix_of_compareTag {tag taken : List Char} {found : Bool}
    (h : compareTag tag cs = some (taken, found, rest)) : rest <:+ cs := by
  fun_induction compareTag tag cs generalizing taken with
  | case1 cs =>
    cases h
    exact List.suffix_cons ..
  | case2 cs =>
    cases h
    exact List.suffix_rfl
  | case3 => cases h
  | case4 tag c cs ih =>
    obtain ⟨⟨s, f, left⟩, hread, heq⟩ := Option.map_eq_some_iff.mp h
    obtain ⟨-, heq⟩ := Prod.mk.inj heq
    obtain ⟨rfl, rfl⟩ := Prod.mk.inj heq
    exact (ih hread).trans (List.suffix_cons ..)
  | case5 =>
    cases h
    exact List.suffix_cons ..

theorem leaves_closeTag (tag : List Char) (fuel : Nat) (cs : List Char) :
    Leaves cs (closeTag tag fuel cs) := by
  fun_induction closeTag tag fuel cs with
  | case1 => exact leaves_none
  | case2 => exact leaves_none
  | case3 => exact leaves_none
  | case4 fuel cs taken rest hread =>
    exact leaves_some ((suffix_of_compareTag hread).trans (List.suffix_cons ..))
  | case5 fuel cs taken rest hread ih =>
    exact ((ih.map fun _ _ => rfl).mono (suffix_of_compareTag hread)).cons _
  | case6 fuel c cs _ ih => exact (ih.map fun _ _ => rfl).cons _

theorem leaves_dollar? (cs : List Char) : Leaves cs (dollar? cs) := by
  unfold dollar?
  split
  · exact ((leaves_closeDollars _).map fun _ _ => rfl).cons _
  · have hspan := span_snd_suffix
      (fun c => Text.isAlphabetic c || Text.isNumeric c || c == '_') cs
    split
    next tag rest heq =>
    rw [heq] at hspan
    split
    · next body =>
      exact (((leaves_closeTag tag _ body).map fun _ _ => rfl).cons '$').mono hspan
    · exact leaves_some hspan

theorem wordFrom_snd_suffix (d : Dialect) (front cs : List Char) :
    (wordFrom d front cs).2 <:+ cs :=
  span_snd_suffix (continuesWord d) cs

theorem exponent_snd_suffix (cs : List Char) : (exponent cs).2 <:+ cs := by
  unfold exponent
  split
  · exact List.suffix_rfl
  · next e r =>
    split
    next sign digits heq =>
    have hdigits : digits <:+ r := by
      split at heq <;> cases heq
      · exact List.suffix_cons ..
      · exact List.suffix_cons ..
      · exact List.suffix_rfl
    split
    · exact (span_snd_suffix Char.isDigit digits).trans (hdigits.trans (List.suffix_cons ..))
    · exact List.suffix_rfl

theorem numberOrPoint_snd_suffix (d : Dialect) (cs : List Char) :
    (numberOrPoint d cs).2 <:+ cs := by
  unfold numberOrPoint
  split
  · next rest =>
    exact (span_snd_suffix _ rest).trans ((List.suffix_cons ..).trans (List.suffix_cons ..))
  · have hwhole := span_snd_suffix Char.isDigit cs
    split
    next whole behindWhole heq =>
    rw [heq] at hwhole
    split
    next point behindPoint hpoint =>
    have hleft : behindPoint <:+ cs := by
      split at hpoint <;> cases hpoint
      · exact (List.suffix_cons ..).trans hwhole
      · exact hwhole
    have hfraction := (span_snd_suffix Char.isDigit behindPoint).trans hleft
    split
    next fraction behindFraction heq =>
    rw [heq] at hfraction
    dsimp only
    split
    · exact hfraction
    · have hpower := (exponent_snd_suffix behindFraction).trans hfraction
      split
      · exact (span_snd_suffix (continuesWord d) _).trans hpower
      · split
        · next r heq =>
          rw [heq] at hpower
          exact (List.suffix_cons ..).trans hpower
        · exact hpower

theorem suffix_of_firstPrefix? {texts : List String} {s : String}
    (h : firstPrefix? texts cs = some (s, rest)) : rest <:+ cs := by
  obtain ⟨_, -, heq⟩ := Option.map_eq_some_iff.mp h
  obtain ⟨-, rfl⟩ := Prod.mk.inj heq
  exact List.drop_suffix _ cs

theorem readSymbol_snd_suffix (d : Dialect) (c : Char) (cs : List Char) :
    (readSymbol d c cs).2 <:+ c :: cs := by
  unfold readSymbol
  split
  · next s left heq =>
    have hleft := suffix_of_firstPrefix? heq
    have hmore := (span_snd_suffix (extendsOperator d) left).trans hleft
    split
    next more behind heq =>
    rw [heq] at hmore
    split
    · exact hmore
    · exact hmore
  · split
    · next heq => exact suffix_of_firstPrefix? heq
    · next heq => exact suffix_of_firstPrefix? heq
    · exact List.suffix_cons ..

theorem signedWord_snd_suffix (d : Dialect) (c : Char) (cs : List Char) :
    (signedWord d c cs).2 <:+ c :: cs := by
  unfold signedWord
  split
  · next heq => exact suffix_of_firstPrefix? heq
  · split
    · exact List.nil_suffix
    · exact List.suffix_cons ..
    · exact List.nil_suffix
    · exact (List.suffix_cons ..).trans (List.suffix_cons ..)
    · exact (wordFrom_snd_suffix d _ _).trans
        ((List.suffix_cons ..).trans ((List.suffix_cons ..).trans (List.suffix_cons ..)))
    · exact (wordFrom_snd_suffix d _ _).trans
        ((List.suffix_cons ..).trans (List.suffix_cons ..))

theorem questionMark_snd_suffix (d : Dialect) (cs : List Char) : (questionMark d cs).2 <:+ cs := by
  unfold questionMark
  split
  · split
    · exact List.suffix_cons ..
    · exact List.suffix_cons ..
    · exact List.drop_suffix 1 _
  · exact span_snd_suffix Text.isNumeric cs

theorem leaves_stringOf (kind : StringKind) (q : Char) (escapes : Bool) (cs : List Char) :
    Leaves cs (stringOf kind q escapes cs) :=
  (leaves_closeString q escapes cs).map fun _ _ => rfl

theorem leaves_announcedString {found : Option (Option Lexeme × List Char)}
    (h : announcedString d c cs = some found) : Leaves cs found := by
  unfold announcedString at h
  split at h
  · obtain rfl := Option.some.inj h
    exact ((leaves_closeEscaped _ _).map fun _ _ => rfl).cons _
  · obtain rfl := Option.some.inj h
    exact (leaves_stringOf _ _ _ _).cons _
  · split at h
    · obtain rfl := Option.some.inj h
      exact (((leaves_closeUnicode _ _).map fun _ _ => rfl).cons _).cons _
    · cases h
  · cases h

theorem leaves_step (d : Dialect) (c : Char) (cs : List Char) : Leaves (c :: cs) (step d c cs) := by
  have hrest := List.suffix_cons c cs
  unfold step
  refine .ite (leaves_some hrest) ?_
  cases hannounced : announcedString d c cs with
  | some found => exact (leaves_announcedString hannounced).cons c
  | none =>
    refine .ite ((leaves_stringOf _ _ _ cs).cons c) (.ite ((leaves_stringOf _ _ _ cs).cons c) ?_)
    cases closingDelimiter? d c with
    | some q => exact ((leaves_closeString q _ cs).map fun _ _ => rfl).cons c
    | none =>
      have hbehind := (List.drop_suffix 1 cs).trans hrest
      refine .ite (leaves_some (numberOrPoint_snd_suffix d (c :: cs))) ?_
      refine .ite (leaves_some ((afterLineComment_suffix _).trans hbehind)) ?_
      refine .ite ((leaves_afterBlockComment none 0 ' ' _).mono hbehind) ?_
      refine .ite (leaves_some ((afterLineComment_suffix cs).trans hrest)) ?_
      refine .ite (leaves_some (signedWord_snd_suffix d c cs)) ?_
      refine .ite (leaves_some ((questionMark_snd_suffix d cs).trans hrest)) ?_
      refine .ite (leaves_some ((wordFrom_snd_suffix d [c] cs).trans hrest)) ?_
      refine .ite (((leaves_dollar? cs).map fun _ _ => rfl).cons c) ?_
      exact .ite (leaves_some hrest) (leaves_some (readSymbol_snd_suffix d c cs))

/-- The reading of a text comes to an end of it after some steps. -/
inductive Reaches (d : Dialect) : List Char → List Char → Prop where
  | here (cs : List Char) : Reaches d cs cs
  | step {t : Option Lexeme} {c : Char} {cs rest last : List Char}
    (hstep : step d c cs = some (t, rest)) (hlast : Reaches d rest last) :
    Reaches d (c :: cs) last

theorem Reaches.suffix (h : Reaches d cs rest) : rest <:+ cs := by
  induction h with
  | here => exact List.suffix_rfl
  | step hstep _ ih => exact ih.trans (leaves_step d _ _ _ _ hstep)

end TriplesSql.Select
