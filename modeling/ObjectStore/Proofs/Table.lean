import ObjectStore.Proofs.Lists
import ObjectStore.Table
/-!
# What is in a table

Of several values that are inserted for a name the last one is found (`get?_insertAll`), and erasing
what was just inserted undoes it.  Where the inserted names are distinct nothing is lost: the
entries of the table are those of the list in another order (`perm_ofList`), and no other order
could have been meant (`eq_of_perm`).
-/

namespace ObjectStore.Table

variable {α : Type} {t : Table α} {name : String} {v : α}

theorem mem_entries_of_get? (h : t.get? name = some v) : (name, v) ∈ t.entries := by
  rw [get?] at h
  revert h
  induction t.entries with
  | nil => intro h; cases h
  | cons e l ih =>
    intro h
    rw [lookup_cons] at h
    split at h
    · next he => cases h; rw [he]; exact List.mem_cons_self
    · exact List.mem_cons_of_mem _ (ih h)

/-- The value that an entry gives to a name. -/
def valueFor (name : String) (e : String × α) : Option α := if name = e.1 then some e.2 else none

/-- **The last value counts**, and what was there before if there is none. -/
theorem get?_insertAll (t : Table α) (l : List (String × α)) (name : String) :
    (t.insertAll l).get? name = (lastOf (valueFor name) l).or (t.get? name) := by
  induction l generalizing t with
  | nil => rfl
  | cons e l ih =>
    rw [insertAll, List.foldl_cons, ← insertAll, ih, lastOf_cons, Option.or_assoc, get?_insert]
    congr 1
    unfold valueFor
    split
    · rfl
    · rfl

theorem get?_ofList (l : List (String × α)) (name : String) :
    (ofList l).get? name = lastOf (valueFor name) l := by
  rw [ofList, get?_insertAll, get?_empty, Option.or_none]

theorem lastOf_entries (t : Table α) (name : String) :
    lastOf (valueFor name) t.entries = t.get? name := by
  obtain ⟨l, hl⟩ := t
  change lastOf (valueFor name) l = l.lookup name
  induction l with
  | nil => rfl
  | cons e l ih =>
    obtain ⟨he, hl⟩ := List.pairwise_cons.1 hl
    rw [lastOf_cons, ih hl, lookup_cons, valueFor]
    split
    · next hname => rw [hname, lookup_eq_none_of_lt he, Option.none_or]
    · rw [Option.or_none]

theorem mem_of_mem_insertAll {l : List (String × α)} {e : String × α}
    (h : e ∈ (t.insertAll l).entries) : e ∈ t.entries ∨ e ∈ l := by
  induction l generalizing t with
  | nil => exact .inl h
  | cons a l ih =>
    rcases ih (t := t.insert a.1 a.2) h with hmem | hmem
    · rcases mem_put hmem with rfl | hold
      · exact .inr List.mem_cons_self
      · exact .inl hold
    · exact .inr (List.mem_cons_of_mem _ hmem)

theorem mem_of_mem_ofList {l : List (String × α)} {e : String × α}
    (h : e ∈ (ofList l).entries) : e ∈ l := by
  rcases mem_of_mem_insertAll h with hmem | hmem
  · cases hmem
  · exact hmem

/-! ### Entries -/

theorem perm_put {l : List (String × α)} (h : ∀ e ∈ l, e.1 ≠ name) :
    (put name v l).Perm ((name, v) :: l) := by
  induction l with
  | nil => exact .refl _
  | cons e l ih =>
    have hrest := ih fun e he => h e (List.mem_cons_of_mem _ he)
    rw [put]
    split
    · exact .refl _
    · split
      · exact (hrest.cons e).trans (.swap _ _ _)
      · next h₁ h₂ =>
        have hname : e.1 = name := String.le_antisymm (String.not_lt.1 h₁) (String.not_lt.1 h₂)
        exact absurd hname (h e List.mem_cons_self)

theorem perm_insertAll {l : List (String × α)} (h : ((t.entries ++ l).map Prod.fst).Nodup) :
    (t.insertAll l).entries.Perm (t.entries ++ l) := by
  induction l generalizing t with
  | nil =>
    rw [List.append_nil]
    exact .refl _
  | cons e l ih =>
    have hnew : ∀ e' ∈ t.entries, e'.1 ≠ e.1 := by
      intro e' he'
      rw [List.map_append, List.nodup_append] at h
      exact h.2.2 e'.1 (List.mem_map_of_mem he') e.1 (List.mem_map_of_mem List.mem_cons_self)
    have hmove : ((t.insert e.1 e.2).entries ++ l).Perm (t.entries ++ e :: l) :=
      ((perm_put hnew).append_right l).trans List.perm_middle.symm
    refine (ih ?_).trans hmove
    rwa [(hmove.map Prod.fst).nodup_iff]

/-- Distinct names are all kept. -/
theorem perm_ofList {l : List (String × α)} (h : (l.map Prod.fst).Nodup) :
    (ofList l).entries.Perm l :=
  perm_insertAll h

theorem nodup_names (t : Table α) : t.names.Nodup := by
  rw [names, List.Nodup, List.pairwise_map]
  exact t.sorted.imp String.ne_of_lt

/-- Tables with the same entries are the same table. -/
theorem eq_of_perm {u : Table α} (h : t.entries.Perm u.entries) : t = u := by
  have hentries : t.entries = u.entries := by
    refine h.eq_of_pairwise ?_ t.sorted u.sorted
    intro a b _ _ hab hba
    exact absurd hba (String.lt_asymm hab)
  cases t
  cases u
  cases hentries
  rfl

/-! ### Names -/

variable {names : List String}

theorem names_insert_subset (ht : t.names ⊆ names) (hname : name ∈ names) :
    (t.insert name v).names ⊆ names := by
  intro other hother
  obtain ⟨e, he, rfl⟩ := List.mem_map.1 hother
  rcases mem_put he with rfl | hold
  · exact hname
  · exact ht (List.mem_map_of_mem hold)

theorem names_insertAll_subset {l : List (String × α)} (ht : t.names ⊆ names)
    (hl : ∀ e ∈ l, e.1 ∈ names) : (t.insertAll l).names ⊆ names := by
  intro other hother
  obtain ⟨e, he, rfl⟩ := List.mem_map.1 hother
  rcases mem_of_mem_insertAll he with hold | hnew
  · exact ht (List.mem_map_of_mem hold)
  · exact hl e hnew

theorem names_erase_subset (ht : t.names ⊆ names) : (t.erase name).names ⊆ names := by
  intro other hother
  obtain ⟨e, he, rfl⟩ := List.mem_map.1 hother
  exact ht (List.mem_map_of_mem (List.mem_filter.1 he).1)

theorem erase_insert (h : t.get? name = none) : (t.insert name v).erase name = t := by
  apply eq_of_get?_eq
  intro other
  rw [get?_erase, get?_insert]
  by_cases ho : other = name
  · rw [if_pos ho, ho, h]
  · rw [if_neg ho, if_neg ho]

end ObjectStore.Table
