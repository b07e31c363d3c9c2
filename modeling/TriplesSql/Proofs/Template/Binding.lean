import TriplesSql.Proofs.Lists
import TriplesSql.Template.Matching

/-!
# Bindings of named pieces

Pieces can be bound exactly if there are values of the names such that each piece decodes to the
value of its name. Each name is then bound once, where it first appears.
-/

namespace TriplesSql.Template

/-- Each piece decodes to the value of its name. -/
def Carries (value : String → String) (named : List (String × List Char)) : Prop :=
  ∀ x ∈ named, Text.Percent.decode? x.2 = some (value x.1)

/-- The bindings of some names to their values, each once, in order of first appearance. -/
def bindingsOf (value : String → String) (names : List String) : Bindings :=
  names.eraseDups.map fun name => (name, value name)

variable {value : String → String} {named : List (String × List Char)}
  {bound bindings : Bindings}

theorem lookup_bindingsOf (value : String → String) (names : List String) (name : String) :
    (bindingsOf value names).lookup name = if name ∈ names then some (value name) else none := by
  have hm : name ∈ names ↔ name ∈ names.eraseDups := List.mem_eraseDups.symm
  simp only [bindingsOf, hm]
  induction names.eraseDups with
  | nil => rfl
  | cons first rest ih =>
    rw [List.map_cons, List.lookup_cons]
    by_cases h : name = first
    · subst h
      simp
    · rw [beq_false_of_ne h, ih]
      simp [h]

theorem bindingsOf_concat (value : String → String) (names : List String) (name : String) :
    bindingsOf value (names ++ [name]) = if name ∈ names then bindingsOf value names
      else bindingsOf value names ++ [(name, value name)] := by
  unfold bindingsOf
  rw [eraseDups_concat]
  split
  · rfl
  · rw [List.map_append]
    rfl

theorem bindPieces_bindingsOf (h : Carries value named) (seen : List String) :
    bindPieces (bindingsOf value seen) named
      = some (bindingsOf value (seen ++ named.map Prod.fst)) := by
  induction named generalizing seen with
  | nil =>
    rw [List.map_nil, List.append_nil]
    rfl
  | cons x named ih =>
    obtain ⟨name, piece⟩ := x
    have hpiece : Text.Percent.decode? piece = some (value name) := h _ List.mem_cons_self
    have hnext := ih (fun y hy => h y (List.mem_cons_of_mem _ hy)) (seen ++ [name])
    rw [bindingsOf_concat, List.append_assoc, List.singleton_append] at hnext
    rw [bindPieces, hpiece, Option.bind_eq_bind, Option.bind_some, lookup_bindingsOf]
    by_cases hm : name ∈ seen
    · rw [if_pos hm] at hnext ⊢
      simp only [if_true]
      exact hnext
    · rw [if_neg hm] at hnext ⊢
      exact hnext

theorem lookup_of_bindPieces (h : bindPieces bound named = some bindings) :
    bound <+: bindings
      ∧ ∀ x ∈ named, ∃ v, Text.Percent.decode? x.2 = some v ∧ bindings.lookup x.1 = some v := by
  induction named generalizing bound with
  | nil =>
    obtain rfl : bound = bindings := Option.some.inj h
    exact ⟨List.prefix_refl bound, fun x hx => absurd hx List.not_mem_nil⟩
  | cons x named ih =>
    obtain ⟨name, piece⟩ := x
    obtain ⟨v, hpiece, h⟩ := Option.bind_eq_some_iff.mp h
    have hlast : ∀ {next : Bindings}, bindPieces next named = some bindings → bound <+: next →
        next.lookup name = some v →
        bound <+: bindings ∧ ∀ x ∈ (name, piece) :: named,
          ∃ v, Text.Percent.decode? x.2 = some v ∧ bindings.lookup x.1 = some v := by
      intro next hn hpre hl
      obtain ⟨hp, hall⟩ := ih hn
      refine ⟨hpre.trans hp, fun y hy => ?_⟩
      rcases List.mem_cons.mp hy with rfl | hy
      · exact ⟨v, hpiece, hp.lookup_eq_some hl⟩
      · exact hall y hy
    cases hl : bound.lookup name with
    | none =>
      simp only [hl] at h
      refine hlast h (List.prefix_append bound _) ?_
      rw [List.lookup_append, hl]
      simp
    | some before =>
      simp only [hl] at h
      split at h
      · next he => exact hlast h (List.prefix_refl bound) (he ▸ hl)
      · cases h

theorem bindPieces_eq_some_iff : bindPieces [] named = some bindings
    ↔ ∃ value, Carries value named ∧ bindings = bindingsOf value (named.map Prod.fst) := by
  constructor
  · intro h
    obtain ⟨-, hall⟩ := lookup_of_bindPieces h
    have hcarries : Carries (fun name => (bindings.lookup name).getD "") named := by
      intro x hx
      obtain ⟨v, hv, hl⟩ := hall x hx
      simp only [hv, hl, Option.getD_some]
    have hbound := bindPieces_bindingsOf hcarries []
    exact ⟨_, hcarries, Option.some.inj (h.symm.trans hbound)⟩
  · rintro ⟨value, hcarries, rfl⟩
    exact bindPieces_bindingsOf hcarries []

end TriplesSql.Template
