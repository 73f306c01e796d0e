import Mathlib.Data.List.Forall2
/-!
# Lists

A place in a list splits it in two, the last element with a value overrules those before it, and
sorting finds the one strictly ascending list of the given elements.
-/

namespace ObjectStore

variable {α : Type}

theorem exists_split {l : List α} {i : Nat} {a : α} (h : l[i]? = some a) :
    ∃ before after, l = before ++ a :: after ∧ l.eraseIdx i = before ++ after ∧
      ∀ b, l.set i b = before ++ b :: after := by
  obtain ⟨hi, rfl⟩ := List.getElem?_eq_some_iff.1 h
  refine ⟨l.take i, l.drop (i + 1), ?_, List.eraseIdx_eq_take_drop_succ l i, ?_⟩
  · rw [List.getElem_cons_drop hi, List.take_append_drop]
  · intro b
    rw [List.set_eq_take_append_cons_drop, if_pos hi]

theorem of_getElem?_concat {l : List α} {a b : α} {i : Nat} (h : (l ++ [a])[i]? = some b) :
    l[i]? = some b ∨ (i = l.length ∧ b = a) := by
  rcases Nat.lt_trichotomy i l.length with hlt | rfl | hgt
  · rw [List.getElem?_append_left hlt] at h
    exact .inl h
  · rw [List.getElem?_concat_length] at h
    cases h
    exact .inr ⟨rfl, rfl⟩
  · rw [List.getElem?_eq_none (by rw [List.length_append]; exact hgt)] at h
    cases h

theorem of_getElem?_set {l : List α} {a b : α} {i j : Nat} (h : (l.set i a)[j]? = some b) :
    (i = j ∧ b = a) ∨ (i ≠ j ∧ l[j]? = some b) := by
  rw [List.getElem?_set] at h
  split at h
  · next hij =>
    split at h
    · cases h
      exact .inl ⟨hij, rfl⟩
    · cases h
  · next hij => exact .inr ⟨hij, h⟩

/-- Two lists element by element: to one on the right belongs one on the left. -/
theorem exists_getElem?_of_forall₂ {β : Type} {R : α → β → Prop} {l : List α} {m : List β}
    (h : List.Forall₂ R l m) {i : Nat} {b : β} (hb : m[i]? = some b) :
    ∃ a, l[i]? = some a ∧ R a b := by
  obtain ⟨hm, rfl⟩ := List.getElem?_eq_some_iff.1 hb
  have hl : i < l.length := by rwa [h.length_eq]
  exact ⟨l[i], List.getElem?_eq_getElem hl, h.get hl hm⟩

theorem filterMap_split {β : Type} (f : α → Option β) (before : List α) (a : α) (after : List α) :
    (before ++ a :: after).filterMap f =
      before.filterMap f ++ ((f a).toList ++ after.filterMap f) := by
  rw [List.filterMap_append, List.filterMap_cons]
  cases f a with
  | none => rfl
  | some b => rfl

theorem map_eq_map_some {β : Type} {f : α → Option β} {l : List α}
    (h : ∀ a ∈ l, (f a).isSome = true) : l.map f = (l.filterMap f).map some := by
  induction l with
  | nil => rfl
  | cons a l ih =>
    obtain ⟨b, hb⟩ := Option.isSome_iff_exists.1 (h a List.mem_cons_self)
    rw [List.map_cons, ih fun a ha => h a (List.mem_cons_of_mem _ ha), List.filterMap_cons_some hb,
      List.map_cons, hb]

/-- The value of the last element that has one. -/
def lastOf {β : Type} (f : α → Option β) (l : List α) : Option β := (l.filterMap f).getLast?

theorem lastOf_nil {β : Type} (f : α → Option β) : lastOf f [] = none := rfl

theorem lastOf_cons {β : Type} (f : α → Option β) (a : α) (l : List α) :
    lastOf f (a :: l) = (lastOf f l).or (f a) := by
  rw [lastOf, lastOf, List.filterMap_cons]
  cases f a with
  | none => rw [Option.or_none]
  | some b =>
    rw [List.getLast?_cons]
    cases (l.filterMap f).getLast? with
    | none => rfl
    | some _ => rfl

theorem lastOf_singleton {β : Type} (f : α → Option β) (a : α) : lastOf f [a] = f a := by
  rw [lastOf_cons, lastOf_nil, Option.none_or]

theorem lastOf_append {β : Type} (f : α → Option β) (l m : List α) :
    lastOf f (l ++ m) = (lastOf f m).or (lastOf f l) := by
  rw [lastOf, lastOf, lastOf, List.filterMap_append, List.getLast?_append]

theorem lastOf_map {β γ : Type} (f : β → Option γ) (g : α → β) (l : List α) :
    lastOf f (l.map g) = lastOf (fun a => f (g a)) l := by
  rw [lastOf, lastOf, List.filterMap_map]
  rfl

theorem lastOf_eq_none {β : Type} {f : α → Option β} {l : List α} (h : ∀ a ∈ l, f a = none) :
    lastOf f l = none := by
  rw [lastOf, List.filterMap_eq_nil_iff.2 h]
  rfl

/-- Where one element at most has a value, the order does not matter. -/
theorem lastOf_of_perm {β : Type} {f : α → Option β} {l m : List α} {value : Option β}
    (h : l.Perm m) (hm : m.filterMap f = value.toList) : lastOf f l = value := by
  have hvalues := h.filterMap f
  rw [hm] at hvalues
  cases value with
  | none => rw [lastOf, hvalues.eq_nil]; rfl
  | some b => rw [lastOf, hvalues.eq_singleton]; rfl

/-- Sorting gives the list that is strictly ascending. -/
theorem mergeSort_eq_of_perm {le : α → α → Bool} {l sorted : List α}
    (htrans : ∀ a b c, le a b = true → le b c = true → le a c = true)
    (htotal : ∀ a b, (le a b || le b a) = true) (hperm : l.Perm sorted)
    (hsorted : sorted.Pairwise fun a b => le b a = false) : l.mergeSort le = sorted := by
  have hanti : ∀ a ∈ sorted, ∀ b ∈ sorted, le a b = true → le b a = true → a = b := by
    intro a ha b hb
    refine List.Pairwise.forall_of_forall_of_flip
      (R := fun a b => le a b = true → le b a = true → a = b) ?_ ?_ ?_ ha hb
    · intro _ _ _ _
      rfl
    · refine hsorted.imp fun hlt _ hle => ?_
      rw [hlt] at hle
      cases hle
    · refine hsorted.imp fun hlt hle _ => ?_
      rw [hlt] at hle
      cases hle
  have hweak : sorted.Pairwise fun a b => le a b = true := by
    refine hsorted.imp fun {a b} hlt => ?_
    have hle := htotal a b
    rwa [hlt, Bool.or_false] at hle
  have hmerge := (List.mergeSort_perm l le).trans hperm
  refine hmerge.eq_of_pairwise ?_ (List.pairwise_mergeSort htrans htotal l) hweak
  intro a b ha hb
  exact hanti a (hmerge.subset ha) b hb

end ObjectStore
