import TriplesSql.Proofs.Lists
import TriplesSql.Proofs.Unfold.Naming

/-!
# Summaries tell all names

The summary of a registry has its names by the shown forms of their addresses. A shown address is
read from its end: what is behind the last slash tells the kind of term map, the digits behind the
last bracket tell the number, and the rest is the name of the rule, whatever characters it has. So
no two addresses are shown alike, and the summary has as many entries as the registry.
-/

namespace TriplesSql

open Std

theorem append_mark_inj {mark x y u v : String} {c : Char} (hmark : mark.toList = [c])
    (hu : c ∉ u.toList) (hv : c ∉ v.toList) (h : x ++ (mark ++ u) = y ++ (mark ++ v)) :
    x = y ∧ u = v := by
  have hlist := congrArg String.toList h
  simp only [String.toList_append, hmark, List.singleton_append] at hlist
  obtain ⟨hfront, hback⟩ := append_cons_inj hu hv hlist
  exact ⟨String.toList_inj.mp hfront, String.toList_inj.mp hback⟩

theorem PredicateObjectAddress.display_injective : Function.Injective display := by
  have htext (a : PredicateObjectAddress) :
      a.display = a.rule ++ "/pom" ++ ("[" ++ (toString a.index ++ "]")) := by
    simp only [display, String.append_assoc]
    rfl
  have hdigits (n : Nat) : '[' ∉ (toString n ++ "]").toList := by
    rw [String.toList_append, List.mem_append]
    rintro (hm | hm)
    · exact absurd (isDigit_of_mem_toString hm) (by decide)
    · exact absurd hm (by decide)
  intro a b h
  rw [htext a, htext b] at h
  obtain ⟨hrule, hindex⟩ := append_mark_inj rfl (hdigits a.index) (hdigits b.index) h
  have hr : a.rule = b.rule := (String.append_left_inj "/pom").mp hrule
  have hi : a.index = b.index := toString_nat_inj ((String.append_left_inj "]").mp hindex)
  cases a
  cases b
  cases hr
  cases hi
  rfl

namespace TermAddress

def place : TermAddress → String
  | .subject rule => rule
  | .predicate rule index | .object rule index | .reference rule index =>
    PredicateObjectAddress.display ⟨rule, index⟩

def kind : TermAddress → String
  | .subject _ => "subject"
  | .predicate _ _ => "predicate"
  | .object _ _ => "object"
  | .reference _ _ => "ref_object"

theorem display_eq (a : TermAddress) : a.display = a.place ++ ("/" ++ a.kind) := by
  cases a with
  | subject rule => rfl
  | predicate | object | reference =>
    simp only [display, place, kind, PredicateObjectAddress.display, String.append_assoc]
    rfl

theorem slash_not_mem_kind (a : TermAddress) : '/' ∉ a.kind.toList := by
  cases a <;> simp [kind]

theorem eq_of_place_eq {a b : TermAddress} (hkind : a.kind = b.kind) (hplace : a.place = b.place) :
    a = b := by
  have hpair {rule rule' : String} {index index' : Nat}
      (h : PredicateObjectAddress.display ⟨rule, index⟩
        = PredicateObjectAddress.display ⟨rule', index'⟩) : rule = rule' ∧ index = index' :=
    PredicateObjectAddress.mk.inj (PredicateObjectAddress.display_injective h)
  cases a with
  | subject =>
    cases b with
    | subject => exact congrArg subject hplace
    | predicate | object | reference => simp [kind] at hkind
  | predicate =>
    cases b with
    | predicate =>
      obtain ⟨rfl, rfl⟩ := hpair hplace
      rfl
    | subject | object | reference => simp [kind] at hkind
  | object =>
    cases b with
    | object =>
      obtain ⟨rfl, rfl⟩ := hpair hplace
      rfl
    | subject | predicate | reference => simp [kind] at hkind
  | reference =>
    cases b with
    | reference =>
      obtain ⟨rfl, rfl⟩ := hpair hplace
      rfl
    | subject | predicate | object => simp [kind] at hkind

theorem display_injective : Function.Injective display := by
  intro a b h
  rw [display_eq, display_eq] at h
  obtain ⟨hplace, hkind⟩ := append_mark_inj rfl a.slash_not_mem_kind b.slash_not_mem_kind h
  exact eq_of_place_eq hkind hplace

end TermAddress

namespace Registry

/-- A map by names says what a map by keys says, under the names of the keys, and nothing else. -/
structure IsView {α β : Type} [Ord α] [TransOrd α] (label : α → String) (m : ExtTreeMap α β)
    (view : ExtTreeMap String β) : Prop where
  entries : ∀ key, view[label key]? = m[key]?
  names : ∀ name ∈ view, ∃ key ∈ m, label key = name
  size : view.size = m.size

variable {α β : Type} {label : α → String}

theorem shown_eq_ofList (label : α → String) (entries : List (α × β)) :
    shown label entries = ExtTreeMap.ofList (entries.map fun e => (label e.1, e.2)) := by
  have hfold (m : ExtTreeMap String β) :
      entries.foldl (fun m e => m.insert (label e.1) e.2) m
        = m.insertMany (entries.map fun e => (label e.1, e.2)) := by
    induction entries generalizing m with
    | nil => simp
    | cons e entries ih => rw [List.foldl_cons, ih, List.map_cons, ExtTreeMap.insertMany_cons]
  rw [ExtTreeMap.ofList_eq_insertMany_empty]
  exact hfold ∅

theorem isView_shown [Ord α] [TransOrd α] [LawfulEqOrd α] (hlabel : Function.Injective label)
    (m : ExtTreeMap α β) : IsView label m (shown label m.toList) := by
  have hdistinct : (m.toList.map fun e => (label e.1, e.2)).Pairwise
      fun e e' => ¬compare e.1 e'.1 = .eq := by
    rw [List.pairwise_map]
    refine ExtTreeMap.distinct_keys_toList.imp fun {e e'} hne heq => hne ?_
    rw [Std.compare_eq_iff_eq] at heq ⊢
    exact hlabel heq
  have hmem {name : String} : name ∈ shown label m.toList ↔ ∃ key ∈ m, label key = name := by
    rw [shown_eq_ofList, ExtTreeMap.mem_ofList, List.contains_iff_mem, List.map_map, List.mem_map]
    constructor
    · rintro ⟨⟨key, v⟩, he, rfl⟩
      have hkey : m[key]? = some v := ExtTreeMap.mem_toList_iff_getElem?_eq_some.mp he
      exact ⟨key, ExtTreeMap.mem_iff_isSome_getElem?.mpr (by rw [hkey]; rfl), rfl⟩
    · rintro ⟨key, hkey, rfl⟩
      obtain ⟨v, hv⟩ := Option.isSome_iff_exists.mp (ExtTreeMap.mem_iff_isSome_getElem?.mp hkey)
      exact ⟨(key, v), ExtTreeMap.mem_toList_iff_getElem?_eq_some.mpr hv, rfl⟩
  constructor
  · intro key
    cases hkey : m[key]? with
    | none =>
      refine ExtTreeMap.getElem?_eq_none fun hname => ?_
      obtain ⟨key', hkey', heq⟩ := hmem.mp hname
      rw [hlabel heq, ExtTreeMap.mem_iff_isSome_getElem?, hkey] at hkey'
      cases hkey'
    | some v =>
      have he : (label key, v) ∈ m.toList.map fun e => (label e.1, e.2) :=
        List.mem_map.mpr ⟨(key, v), ExtTreeMap.mem_toList_iff_getElem?_eq_some.mpr hkey, rfl⟩
      rw [shown_eq_ofList]
      exact ExtTreeMap.getElem?_ofList_of_mem (Std.compare_eq_iff_eq.mpr rfl) hdistinct he
  · exact fun name => hmem.mp
  · rw [shown_eq_ofList, ExtTreeMap.size_ofList hdistinct, List.length_map,
      ExtTreeMap.length_toList]

/-- Whatever the rules are called, different addresses are shown differently, and the summary of a
registry has under each shown address what the registry has at this address, and no other
entries. -/
theorem isView_summary (r : Registry) :
    Function.Injective TermAddress.display ∧ Function.Injective PredicateObjectAddress.display
      ∧ IsView TermAddress.display r.terms r.summary.terms
      ∧ IsView TermAddress.display r.references r.summary.references
      ∧ IsView PredicateObjectAddress.display r.predicateObjects r.summary.predicateObjects
      ∧ IsView id r.tables r.summary.tables :=
  ⟨TermAddress.display_injective, PredicateObjectAddress.display_injective,
    isView_shown TermAddress.display_injective r.terms,
    isView_shown TermAddress.display_injective r.references,
    isView_shown PredicateObjectAddress.display_injective r.predicateObjects,
    fun _ => rfl, fun name hname => ⟨name, hname, rfl⟩, rfl⟩

end Registry

end TriplesSql
