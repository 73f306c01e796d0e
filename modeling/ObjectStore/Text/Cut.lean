/-!
# Cutting lists at a separator

`cut` stops at the first separator and says whether there was one; `cutMark?` stops at a mark
of several characters.  **Nothing is lost:** what was cut, with the separator put back between
the two parts, is the list again.
-/

namespace ObjectStore.Text

variable {α : Type} [DecidableEq α]

/-- What stands before the first `sep`, and what stands after it if there is one. -/
def cut (sep : α) : List α → List α × Option (List α)
  | [] => ([], none)
  | a :: l =>
    if a = sep then ([], some l)
    else
      let (before, after) := cut sep l
      (a :: before, after)

theorem cut_eq_of_notMem {sep : α} {l : List α} (h : sep ∉ l) : cut sep l = (l, none) := by
  induction l with
  | nil => rfl
  | cons a l ih =>
    rw [List.mem_cons, not_or] at h
    rw [cut, if_neg (Ne.symm h.1), ih h.2]

theorem cut_append_sep {sep : α} {l : List α} (h : sep ∉ l) (r : List α) :
    cut sep (l ++ sep :: r) = (l, some r) := by
  induction l with
  | nil => simp [cut]
  | cons a l ih =>
    rw [List.mem_cons, not_or] at h
    rw [List.cons_append, cut, if_neg (Ne.symm h.1), ih h.2]

theorem notMem_fst_cut (sep : α) (l : List α) : sep ∉ (cut sep l).1 := by
  induction l with
  | nil => simp [cut]
  | cons a l ih =>
    rw [cut]
    split
    · simp
    · next h => exact List.not_mem_cons_of_ne_of_not_mem (Ne.symm h) ih

theorem append_of_cut {sep : α} {l before after : List α}
    (h : cut sep l = (before, some after)) : before ++ sep :: after = l := by
  induction l generalizing before with
  | nil => cases h
  | cons a l ih =>
    rw [cut] at h
    split at h
    · next ha => cases h; rw [ha, List.nil_append]
    · obtain ⟨h₁, h₂⟩ := Prod.mk.inj h
      rw [← h₁, List.cons_append, ih (Prod.ext rfl h₂)]

theorem eq_of_cut {sep : α} {l before : List α} (h : cut sep l = (before, none)) :
    before = l := by
  induction l generalizing before with
  | nil => cases h; rfl
  | cons a l ih =>
    rw [cut] at h
    split at h
    · cases h
    · obtain ⟨h₁, h₂⟩ := Prod.mk.inj h
      have : (cut sep l).1 = l := ih (Prod.ext rfl h₂)
      rw [← h₁, this]

/-! ### Marks -/

/-- What stands before the first `mark`, and what stands after it. -/
def cutMark? (mark : List α) : List α → Option (List α × List α)
  | [] => (mark.isPrefixOf? []).map fun after => ([], after)
  | a :: l =>
    match mark.isPrefixOf? (a :: l) with
    | some after => some ([], after)
    | none => (cutMark? mark l).map fun (before, after) => (a :: before, after)

theorem isPrefixOf?_eq_some_iff {start l rest : List α} :
    start.isPrefixOf? l = some rest ↔ l = start ++ rest := by
  induction start generalizing l with
  | nil => exact Option.some_inj
  | cons a start ih =>
    cases l with
    | nil => exact ⟨(nomatch ·), (nomatch ·)⟩
    | cons b l =>
      change (if a == b then start.isPrefixOf? l else none) = some rest ↔ _
      by_cases h : a = b
      · simp [h, ih]
      · simp [h, Ne.symm h]

theorem append_of_cutMark? {mark l before after : List α}
    (h : cutMark? mark l = some (before, after)) : before ++ mark ++ after = l := by
  induction l generalizing before with
  | nil =>
    obtain ⟨r, hr, he⟩ := Option.map_eq_some_iff.1 h
    cases he
    exact (isPrefixOf?_eq_some_iff.1 hr).symm
  | cons a l ih =>
    rw [cutMark?] at h
    split at h
    · next hr => cases h; exact (isPrefixOf?_eq_some_iff.1 hr).symm
    · obtain ⟨⟨x, y⟩, hx, he⟩ := Option.map_eq_some_iff.1 h
      cases he
      rw [List.cons_append, List.cons_append, ih hx]

/-! ### On text -/

def cutText (sep : Char) (s : String) : String × Option String :=
  let (before, after) := cut sep s.toList
  (String.ofList before, after.map String.ofList)

theorem cutText_of_notMem {sep : Char} {s : String} (h : sep ∉ s.toList) :
    cutText sep s = (s, none) := by
  rw [cutText, cut_eq_of_notMem h]
  exact Prod.ext String.ofList_toList rfl

theorem cutText_append_sep {sep : Char} {s before after : String} (h : sep ∉ before.toList)
    (hs : s.toList = before.toList ++ sep :: after.toList) :
    cutText sep s = (before, some after) := by
  rw [cutText, hs, cut_append_sep h]
  exact Prod.ext String.ofList_toList (congrArg some String.ofList_toList)

theorem notMem_fst_cutText (sep : Char) (s : String) : sep ∉ (cutText sep s).1.toList := by
  rw [cutText, String.toList_ofList]
  exact notMem_fst_cut sep s.toList

theorem append_of_cutText {sep : Char} {s before after : String}
    (h : cutText sep s = (before, some after)) :
    s.toList = before.toList ++ sep :: after.toList := by
  obtain ⟨hbefore, hafter⟩ := Prod.mk.inj h
  obtain ⟨l, hl, rfl⟩ := Option.map_eq_some_iff.1 hafter
  rw [← hbefore, String.toList_ofList, String.toList_ofList]
  exact (append_of_cut (Prod.ext rfl hl)).symm

/-- The text between the separators; always at least one piece. -/
def splitText (sep : Char) (s : String) : List String := (s.toList.splitOn sep).map String.ofList

/-- `s` without the given beginning, if it has it. -/
def afterStart? (start s : String) : Option String :=
  (start.toList.isPrefixOf? s.toList).map String.ofList

theorem afterStart?_eq_some_iff {start s rest : String} :
    afterStart? start s = some rest ↔ s = start ++ rest := by
  rw [afterStart?, Option.map_eq_some_iff, ← String.toList_inj, String.toList_append]
  constructor
  · rintro ⟨l, hl, rfl⟩
    rw [String.toList_ofList]
    exact isPrefixOf?_eq_some_iff.1 hl
  · intro h
    exact ⟨rest.toList, isPrefixOf?_eq_some_iff.2 h, String.ofList_toList⟩

theorem afterStart?_append (start s : String) : afterStart? start (start ++ s) = some s :=
  afterStart?_eq_some_iff.2 rfl

/-- `s` without the given ending, if it has it. -/
def beforeEnd? (ending s : String) : Option String :=
  if ending.toList <:+ s.toList then
    some (String.ofList (s.toList.take (s.length - ending.length)))
  else none

end ObjectStore.Text
