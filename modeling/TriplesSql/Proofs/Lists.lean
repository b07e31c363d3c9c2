import Mathlib.Data.List.Forall2
import Mathlib.Data.List.Induction
import Mathlib.Data.List.Nodup

namespace TriplesSql

theorem eraseDups_concat {α : Type} [BEq α] [LawfulBEq α] [DecidableEq α] (xs : List α) (x : α) :
    (xs ++ [x]).eraseDups = if x ∈ xs then xs.eraseDups else xs.eraseDups ++ [x] := by
  rw [List.eraseDups_append, List.cons_removeAll]
  by_cases h : x ∈ xs
  · simp [h]
  · simp [h, List.eraseDups_cons]

theorem nodup_eraseDups {α : Type} [BEq α] [LawfulBEq α] [DecidableEq α] (xs : List α) :
    xs.eraseDups.Nodup := by
  induction xs using List.reverseRecOn with
  | nil => exact List.nodup_nil
  | append_singleton xs x ih =>
    rw [eraseDups_concat]
    split
    · exact ih
    · next hx =>
      rw [← List.concat_eq_append]
      exact ih.concat fun hm => hx (List.mem_eraseDups.mp hm)

theorem eraseDups_map_of_injective {α β : Type} [BEq α] [LawfulBEq α] [DecidableEq α] [BEq β]
    [LawfulBEq β] [DecidableEq β] {f : α → β} (hf : Function.Injective f) (xs : List α) :
    (xs.map f).eraseDups = xs.eraseDups.map f := by
  induction xs using List.reverseRecOn with
  | nil => rfl
  | append_singleton xs x ih =>
    rw [List.map_append, List.map_cons, List.map_nil, eraseDups_concat, eraseDups_concat, ih]
    simp only [List.mem_map_of_injective hf]
    split
    · rfl
    · rw [List.map_append]
      rfl

theorem getElem?_concat_eq_some_iff {α : Type} {xs : List α} {x y : α} {j : Nat} :
    (xs ++ [x])[j]? = some y ↔ xs[j]? = some y ∨ (j = xs.length ∧ y = x) := by
  rcases Nat.lt_trichotomy j xs.length with h | rfl | h
  · rw [List.getElem?_append_left h]
    simp [Nat.ne_of_lt h]
  · simp [eq_comm]
  · rw [List.getElem?_eq_none (by simp; omega), List.getElem?_eq_none (Nat.le_of_lt h)]
    simp [Nat.ne_of_gt h]

theorem exists_getLast?_filter {α : Type} {p : α → Bool} {xs : List α} {x : α} (hx : x ∈ xs)
    (hp : p x = true) : ∃ last ∈ xs, p last = true ∧ (xs.filter p).getLast? = some last := by
  have hne : xs.filter p ≠ [] := List.ne_nil_of_mem (List.mem_filter.mpr ⟨hx, hp⟩)
  have hlast : (xs.filter p).getLast? = some ((xs.filter p).getLast hne) :=
    List.getLast?_eq_some_getLast hne
  obtain ⟨hmem, hpl⟩ := List.mem_filter.mp (List.getLast_mem hne)
  exact ⟨_, hmem, hpl, hlast⟩

theorem find?_key_eq_some_iff {α β : Type} [DecidableEq β] {key : α → β} {xs : List α}
    (h : (xs.map key).Nodup) {k : β} {x : α} :
    xs.find? (key · = k) = some x ↔ x ∈ xs ∧ key x = k := by
  constructor
  · intro hx
    have hkey := List.find?_some hx
    exact ⟨List.mem_of_find?_eq_some hx, of_decide_eq_true hkey⟩
  · rintro ⟨hx, rfl⟩
    obtain ⟨y, hy⟩ : ∃ y, xs.find? (key · = key x) = some y := by
      rw [← Option.isSome_iff_exists, List.find?_isSome]
      exact ⟨x, hx, decide_eq_true rfl⟩
    have hkey := List.find?_some hy
    have hmem := List.mem_of_find?_eq_some hy
    rw [hy, List.inj_on_of_nodup_map h hmem hx (of_decide_eq_true hkey)]

theorem forall₂_iff_eq_map {α β : Type} {R : α → β → Prop} {f : α → β} (h : ∀ x y, R x y ↔ y = f x)
    {xs : List α} {ys : List β} :
    xs.Forall₂ R ys ↔ ys = xs.map f := by
  induction xs generalizing ys with
  | nil => exact List.forall₂_nil_left_iff
  | cons x xs ih =>
    rw [List.forall₂_cons_left_iff, List.map_cons]
    constructor
    · rintro ⟨y, tail, hy, htail, rfl⟩
      rw [(h x y).mp hy, ih.mp htail]
    · intro hys
      exact ⟨f x, xs.map f, (h x (f x)).mpr rfl, ih.mpr rfl, hys⟩

theorem getElem?_prefix_mono {α : Type} {xs ys : List α} (h : xs <+: ys) {i : Nat} {x : α}
    (hx : xs[i]? = some x) : ys[i]? = some x := by
  obtain ⟨hi, rfl⟩ := List.getElem?_eq_some_iff.mp hx
  exact List.prefix_iff_getElem?.mp h i hi

/-- A text that stands in front of itself behind another text is made of this. -/
theorem mem_of_prefix_append {α : Type} {w xs : List α} (hw : w ≠ []) (h : xs <+: w ++ xs) {x : α}
    (hx : x ∈ xs) : x ∈ w := by
  induction hn : xs.length using Nat.strongRecOn generalizing xs with
  | _ n ih =>
    -- either the text ends within the other one, or this comes off its front
    rcases List.prefix_or_prefix_of_prefix h (List.prefix_append w xs) with hle | ⟨rest, rfl⟩
    · exact hle.subset hx
    · rcases List.mem_append.mp hx with hx | hx
      · exact hx
      · rw [List.prefix_append_right_inj] at h
        have hpos := List.length_pos_iff.mpr hw
        rw [List.length_append] at hn
        exact ih rest.length (by omega) h hx rfl

theorem takeWhile_append_cons {α : Type} {p : α → Bool} {x : α} (hx : p x = false)
    (xs ys : List α) : (xs ++ x :: ys).takeWhile p = xs.takeWhile p := by
  induction xs with
  | nil => simp [hx]
  | cons y xs ih => simp [List.takeWhile_cons, ih]

/-- A list is cut in one way in front of the last of a kind of entry. -/
theorem append_cons_inj {α : Type} {x : α} {xs ys us vs : List α} (hu : x ∉ us) (hv : x ∉ vs)
    (h : xs ++ x :: us = ys ++ x :: vs) : xs = ys ∧ us = vs := by
  rcases List.append_eq_append_iff.mp h with ⟨zs, rfl, htail⟩ | ⟨zs, rfl, htail⟩
  · cases zs with
    | nil => exact ⟨(List.append_nil xs).symm, (List.cons.inj htail).2⟩
    | cons z zs =>
      obtain ⟨-, rfl⟩ := List.cons.inj htail
      simp at hu
  · cases zs with
    | nil => exact ⟨List.append_nil ys, (List.cons.inj htail).2.symm⟩
    | cons z zs =>
      obtain ⟨-, rfl⟩ := List.cons.inj htail
      simp at hv

theorem bind_eq_ok_iff {ε α β : Type} {x : Except ε α} {f : α → Except ε β} {b : β} :
    (x >>= f) = .ok b ↔ ∃ a, x = .ok a ∧ f a = .ok b := by
  constructor
  · intro h
    cases x with
    | error e => cases h
    | ok a => exact ⟨a, rfl, h⟩
  · rintro ⟨a, rfl, hf⟩
    exact hf

theorem map_eq_ok_iff {ε α β : Type} {x : Except ε α} {g : α → β} {b : β} :
    x.map g = .ok b ↔ ∃ a, x = .ok a ∧ g a = b := by
  cases x <;> simp [Except.map]

theorem mapError_eq_ok_iff {ε ε' α : Type} {f : ε → ε'} {x : Except ε α} {a : α} :
    x.mapError f = .ok a ↔ x = .ok a := by
  cases x <;> simp [Except.mapError]

theorem forM_eq_ok_iff {ε α : Type} {f : α → Except ε Unit} {xs : List α} :
    xs.forM f = .ok () ↔ ∀ x ∈ xs, f x = .ok () := by
  induction xs with
  | nil => exact ⟨fun _ x hx => absurd hx List.not_mem_nil, fun _ => rfl⟩
  | cons x xs ih =>
    show (f x >>= fun _ => xs.forM f) = .ok () ↔ _
    rw [bind_eq_ok_iff, List.forall_mem_cons, ← ih]
    constructor
    · rintro ⟨_, hx, hrest⟩
      exact ⟨hx, hrest⟩
    · rintro ⟨hx, hrest⟩
      exact ⟨(), hx, hrest⟩

theorem forM_flatMap {ε α β : Type} {f : β → Except ε Unit} (g : α → List β) (xs : List α) :
    (xs.flatMap g).forM f = xs.forM fun x => (g x).forM f := by
  induction xs with
  | nil => rfl
  | cons x xs ih =>
    have happend : (g x ++ xs.flatMap g).forM f
        = ((g x).forM f >>= fun _ => (xs.flatMap g).forM f) := List.forM_append
    rw [List.flatMap_cons, happend, ih]
    rfl

theorem forM_eq_find? {ε α : Type} (p : α → Bool) (e : α → ε) (xs : List α) :
    (xs.forM fun x => if p x then Except.error (e x) else .ok ()) = match xs.find? p with
      | none => .ok ()
      | some x => .error (e x) := by
  induction xs with
  | nil => rfl
  | cons x xs ih =>
    show ((if p x then Except.error (e x) else .ok ()) >>= fun _ => xs.forM _) = _
    cases hp : p x with
    | false =>
      rw [List.find?_cons_of_neg (by simp [hp]), ← ih]
      rfl
    | true =>
      rw [List.find?_cons_of_pos hp]
      rfl

end TriplesSql
