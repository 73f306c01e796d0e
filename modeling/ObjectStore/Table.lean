/-!
# Tables ordered by name

A table gives each of finitely many names one value and lists its entries in the order of
the names.  The order is part of the type, and `eq_of_get?_eq` says what this buys: **tables
with the same look-ups are the same table**, whatever the order of the insertions.
-/

namespace ObjectStore

/-- Names with their values, strictly ascending by name. -/
structure Table (α : Type) where
  entries : List (String × α)
  sorted : entries.Pairwise (fun a b => a.1 < b.1)

namespace Table

variable {α β : Type}

/-- Give `name` the value `v` in an ascending list of entries. -/
def put (name : String) (v : α) : List (String × α) → List (String × α)
  | [] => [(name, v)]
  | e :: l =>
    if name < e.1 then (name, v) :: e :: l
    else if e.1 < name then e :: put name v l
    else (name, v) :: l

theorem mem_put {name : String} {v : α} {l : List (String × α)} {e : String × α}
    (h : e ∈ put name v l) : e = (name, v) ∨ e ∈ l := by
  induction l with
  | nil => simpa [put] using h
  | cons a l ih =>
    rw [put] at h
    split at h
    · simpa using h
    · split at h
      · rcases List.mem_cons.1 h with h | h
        · exact .inr (by simp [h])
        · rcases ih h with h | h
          · exact .inl h
          · exact .inr (List.mem_cons_of_mem _ h)
      · rcases List.mem_cons.1 h with h | h
        · exact .inl h
        · exact .inr (List.mem_cons_of_mem _ h)

theorem sorted_put (name : String) (v : α) {l : List (String × α)}
    (h : l.Pairwise (fun a b => a.1 < b.1)) :
    (put name v l).Pairwise (fun a b => a.1 < b.1) := by
  induction l with
  | nil => simp [put]
  | cons a l ih =>
    have ⟨ha, hl⟩ := List.pairwise_cons.1 h
    rw [put]
    split
    · next hlt =>
      refine List.pairwise_cons.2 ⟨fun b hb => ?_, h⟩
      rcases List.mem_cons.1 hb with rfl | hb
      · exact hlt
      · exact String.lt_trans hlt (ha b hb)
    · split
      · next hlt =>
        refine List.pairwise_cons.2 ⟨fun b hb => ?_, ih hl⟩
        rcases mem_put hb with rfl | hb
        · exact hlt
        · exact ha b hb
      · next h₁ h₂ =>
        have he : a.1 = name := String.le_antisymm (String.not_lt.1 h₁) (String.not_lt.1 h₂)
        exact List.pairwise_cons.2 ⟨fun b hb => he ▸ ha b hb, hl⟩

def empty : Table α := ⟨[], List.Pairwise.nil⟩

instance : Inhabited (Table α) := ⟨empty⟩

def insert (t : Table α) (name : String) (v : α) : Table α :=
  ⟨put name v t.entries, sorted_put name v t.sorted⟩

def filter (t : Table α) (p : String → α → Bool) : Table α :=
  ⟨t.entries.filter (fun e => p e.1 e.2), t.sorted.filter _⟩

def erase (t : Table α) (name : String) : Table α := t.filter (fun n _ => n ≠ name)

def get? (t : Table α) (name : String) : Option α := t.entries.lookup name

def contains (t : Table α) (name : String) : Bool := (t.get? name).isSome

def insertAll (t : Table α) (l : List (String × α)) : Table α :=
  l.foldl (fun t e => t.insert e.1 e.2) t

/-- The table of a list in which a later value of a name replaces an earlier one. -/
def ofList (l : List (String × α)) : Table α := empty.insertAll l

def size (t : Table α) : Nat := t.entries.length

def isEmpty (t : Table α) : Bool := t.entries.isEmpty

def names (t : Table α) : List String := t.entries.map (·.1)

/-! ### Look-ups -/

theorem lookup_cons (name : String) (e : String × α) (l : List (String × α)) :
    (e :: l).lookup name = if name = e.1 then some e.2 else l.lookup name := by
  obtain ⟨n, v⟩ := e
  rw [List.lookup_cons]
  by_cases h : name = n
  · rw [if_pos h, beq_iff_eq.2 h]
  · rw [if_neg h, beq_eq_false_iff_ne.2 h]

theorem lookup_put (name other : String) (v : α) (l : List (String × α)) :
    (put name v l).lookup other = if other = name then some v else l.lookup other := by
  induction l with
  | nil => rw [put, lookup_cons]
  | cons a l ih =>
    rw [put]
    split
    · rw [lookup_cons]
    · split
      · next h =>
        rw [lookup_cons, lookup_cons, ih]
        by_cases ho : other = name
        · subst ho
          rw [if_neg (Ne.symm (String.ne_of_lt h)), if_pos rfl, if_pos rfl]
        · rw [if_neg ho, if_neg ho]
      · next h₁ h₂ =>
        have he : a.1 = name := String.le_antisymm (String.not_lt.1 h₁) (String.not_lt.1 h₂)
        rw [lookup_cons, lookup_cons, he]
        by_cases ho : other = name
        · rw [if_pos ho, if_pos ho]
        · rw [if_neg ho, if_neg ho, if_neg ho]

theorem get?_empty (name : String) : (empty : Table α).get? name = none := rfl

theorem get?_insert (t : Table α) (name other : String) (v : α) :
    (t.insert name v).get? other = if other = name then some v else t.get? other :=
  lookup_put name other v t.entries

/-- What is kept for its name keeps its value. -/
theorem get?_filter (t : Table α) (keep : String → Bool) (name : String) :
    (t.filter fun n _ => keep n).get? name = if keep name then t.get? name else none := by
  change (t.entries.filter fun e => keep e.1).lookup name =
    if keep name then t.entries.lookup name else none
  induction t.entries with
  | nil => simp
  | cons a l ih =>
    by_cases ha : keep a.1 = true
    · rw [List.filter_cons_of_pos (by simp [ha]), lookup_cons, lookup_cons, ih]
      by_cases hname : name = a.1
      · rw [if_pos hname, hname, if_pos ha, if_pos rfl]
      · rw [if_neg hname, if_neg hname]
    · rw [List.filter_cons_of_neg (by simp [ha]), ih, lookup_cons]
      by_cases hname : name = a.1
      · rw [hname, if_neg ha, if_neg ha]
      · rw [if_neg hname]

theorem get?_erase (t : Table α) (name other : String) :
    (t.erase name).get? other = if other = name then none else t.get? other := by
  rw [erase, get?_filter t fun n => n ≠ name]
  by_cases ho : other = name
  · rw [if_pos ho, if_neg (by simp [ho])]
  · rw [if_neg ho, if_pos (by simp [ho])]

theorem lookup_eq_none_of_lt {name : String} {l : List (String × α)}
    (h : ∀ e ∈ l, name < e.1) : l.lookup name = none := by
  induction l with
  | nil => rfl
  | cons a l ih =>
    rw [lookup_cons, if_neg (String.ne_of_lt (h a List.mem_cons_self))]
    exact ih fun e he => h e (List.mem_cons_of_mem _ he)

theorem eq_of_lookup_eq {l m : List (String × α)} (hl : l.Pairwise fun a b => a.1 < b.1)
    (hm : m.Pairwise fun a b => a.1 < b.1) (h : ∀ name, l.lookup name = m.lookup name) :
    l = m := by
  induction l generalizing m with
  | nil =>
    cases m with
    | nil => rfl
    | cons b m => have := h b.1; rw [lookup_cons, if_pos rfl] at this; cases this
  | cons a l ih =>
    cases m with
    | nil => have := h a.1; rw [lookup_cons, if_pos rfl] at this; cases this
    | cons b m =>
      have ⟨ha, hl⟩ := List.pairwise_cons.1 hl
      have ⟨hb, hm⟩ := List.pairwise_cons.1 hm
      have absent {e f : String × α} {k : List (String × α)} (hlt : e.1 < f.1)
          (hk : ∀ x ∈ k, f.1 < x.1) : (f :: k).lookup e.1 = none := by
        refine lookup_eq_none_of_lt fun x hx => ?_
        rcases List.mem_cons.1 hx with rfl | hx
        · exact hlt
        · exact String.lt_trans hlt (hk x hx)
      have hn : a.1 = b.1 := by
        refine String.le_antisymm (String.not_lt.1 fun hlt => ?_) (String.not_lt.1 fun hlt => ?_)
        · have := h b.1
          rw [absent hlt ha, lookup_cons, if_pos rfl] at this
          cases this
        · have := h a.1
          rw [absent hlt hb, lookup_cons, if_pos rfl] at this
          cases this
      have hv : a.2 = b.2 := by
        have := h a.1
        rw [lookup_cons, lookup_cons, if_pos rfl, if_pos hn] at this
        exact Option.some.inj this
      rw [Prod.ext hn hv, ih hl hm fun name => ?_]
      have hname := h name
      rw [lookup_cons, lookup_cons, ← hn, ← hv] at hname
      by_cases he : name = a.1
      · rw [he, lookup_eq_none_of_lt ha, hn, lookup_eq_none_of_lt hb]
      · rwa [if_neg he, if_neg he] at hname

/-- **Order is no content.** Tables with the same look-ups are the same table. -/
theorem eq_of_get?_eq {t u : Table α} (h : ∀ name, t.get? name = u.get? name) : t = u := by
  cases t with
  | mk l hl =>
    cases u with
    | mk m hm =>
      have := eq_of_lookup_eq hl hm h
      subst this
      rfl

end Table

end ObjectStore
