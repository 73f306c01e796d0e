import ObjectStore.Proofs.Lists
import ObjectStore.Upload.Operations
/-!
# The order of the parts

Parts are named by ascending number.  When they are sorted, those that share a number stand side by
side, so neighbours tell whether any do (`repeatedNumber?_byNumber_eq_none_iff`).  Where none do,
the parts have one ascending order (`byNumber_eq_of_perm`), and where some do, the number that is
complained of is one that the sorted numbers decide.  So **the order in which parts are given
decides nothing** (`orderedParts_eq_of_perm`).
-/

namespace ObjectStore.Client

variable {parts parts' sorted : List Part}

def byNumber (parts : List Part) : List Part := parts.mergeSort fun a b => a.number ≤ b.number

theorem orderedParts_eq (parts : List Part) : orderedParts parts =
    if parts.isEmpty then .error (.invalidArgument .noParts)
    else
      match repeatedNumber? (byNumber parts) with
      | some n => .error (.invalidArgument (.repeatedPart n.toNat))
      | none => .ok (byNumber parts) := rfl

theorem number_le_trans (a b d : Part) (hab : decide (a.number ≤ b.number) = true)
    (hbd : decide (b.number ≤ d.number) = true) : decide (a.number ≤ d.number) = true := by
  simp only [decide_eq_true_eq] at hab hbd ⊢
  exact UInt32.le_trans hab hbd

theorem number_le_total (a b : Part) :
    (decide (a.number ≤ b.number) || decide (b.number ≤ a.number)) = true := by
  simpa using UInt32.le_total a.number b.number

theorem byNumber_perm (parts : List Part) : (byNumber parts).Perm parts :=
  List.mergeSort_perm parts _

theorem pairwise_byNumber (parts : List Part) :
    (byNumber parts).Pairwise fun a b => a.number ≤ b.number := by
  refine (List.pairwise_mergeSort number_le_trans number_le_total parts).imp ?_
  intro a b hab
  exact of_decide_eq_true hab

/-- Parts have one strictly ascending order. -/
theorem byNumber_eq_of_perm (hperm : parts.Perm sorted)
    (hsorted : sorted.Pairwise fun a b => a.number < b.number) : byNumber parts = sorted := by
  apply mergeSort_eq_of_perm number_le_trans number_le_total hperm
  refine hsorted.imp ?_
  intro a b hlt
  simpa using hlt

theorem map_number_byNumber_eq_of_perm (h : parts.Perm parts') :
    (byNumber parts).map Part.number = (byNumber parts').map Part.number := by
  have hperm : ((byNumber parts).map Part.number).Perm ((byNumber parts').map Part.number) :=
    (((byNumber_perm parts).trans h).trans (byNumber_perm parts').symm).map Part.number
  have hsorted : ∀ l, ((byNumber l).map Part.number).Pairwise (· ≤ ·) := by
    intro l
    rw [List.pairwise_map]
    exact pairwise_byNumber l
  refine hperm.eq_of_pairwise ?_ (hsorted parts) (hsorted parts')
  intro a b _ _
  exact UInt32.le_antisymm

/-! ### Neighbours -/

theorem repeatedNumber?_eq_none (h : parts.Pairwise fun a b => a.number < b.number) :
    repeatedNumber? parts = none := by
  induction parts with
  | nil => rfl
  | cons a l ih =>
    rw [List.pairwise_cons] at h
    cases l with
    | nil => rfl
    | cons b l =>
      have hne : a.number ≠ b.number := UInt32.ne_of_lt (h.1 b List.mem_cons_self)
      rw [repeatedNumber?, if_neg hne]
      exact ih h.2

theorem pairwise_of_repeatedNumber?_eq_none
    (hsorted : parts.Pairwise fun a b => a.number ≤ b.number) (h : repeatedNumber? parts = none) :
    parts.Pairwise fun a b => a.number < b.number := by
  induction parts with
  | nil => exact .nil
  | cons a l ih =>
    cases l with
    | nil => exact List.pairwise_singleton _ a
    | cons b l =>
      rw [repeatedNumber?] at h
      split at h
      · cases h
      · next hne =>
        have hle : a.number ≤ b.number := List.rel_of_pairwise_cons hsorted List.mem_cons_self
        have hlt : a.number < b.number := UInt32.lt_of_le_of_ne hle hne
        apply List.Pairwise.cons
        · intro d hd
          rcases List.mem_cons.1 hd with rfl | hlater
          · exact hlt
          · exact UInt32.lt_of_lt_of_le hlt (List.rel_of_pairwise_cons hsorted.of_cons hlater)
        · exact ih hsorted.of_cons h

/-- **Neighbours tell whether numbers repeat**, once the parts are sorted. -/
theorem repeatedNumber?_byNumber_eq_none_iff :
    repeatedNumber? (byNumber parts) = none ↔ (parts.map Part.number).Nodup := by
  rw [← ((byNumber_perm parts).map Part.number).nodup_iff, List.Nodup, List.pairwise_map]
  constructor
  · intro hnone
    refine (pairwise_of_repeatedNumber?_eq_none (pairwise_byNumber parts) hnone).imp ?_
    intro a b hab
    exact UInt32.ne_of_lt hab
  · intro hne
    apply repeatedNumber?_eq_none
    refine ((pairwise_byNumber parts).and hne).imp ?_
    rintro a b ⟨hle, hne⟩
    exact UInt32.lt_of_le_of_ne hle hne

theorem repeatedNumber?_eq_of_map_eq (h : parts.map Part.number = parts'.map Part.number) :
    repeatedNumber? parts = repeatedNumber? parts' := by
  induction parts generalizing parts' with
  | nil =>
    obtain rfl := List.map_eq_nil_iff.1 h.symm
    rfl
  | cons a l ih =>
    obtain ⟨a', l', rfl, ha, hl⟩ := List.map_eq_cons_iff.1 h.symm
    have hlater := ih hl.symm
    cases l with
    | nil =>
      obtain rfl := List.map_eq_nil_iff.1 hl
      rfl
    | cons b l =>
      obtain ⟨b', l', rfl, hb, _⟩ := List.map_eq_cons_iff.1 hl
      rw [repeatedNumber?, repeatedNumber?, ha, hb, hlater]

/-! ### Parts in order -/

theorem orderedParts_of_nodup (hne : parts ≠ []) (hnodup : (parts.map Part.number).Nodup) :
    orderedParts parts = .ok (byNumber parts) := by
  have hempty : parts.isEmpty = false := by simpa using hne
  have hnone := repeatedNumber?_byNumber_eq_none_iff.2 hnodup
  simp only [orderedParts_eq, hempty, Bool.false_eq_true, if_false, hnone]

/-- Parts with ascending numbers are the manifest of every list that holds just them. -/
theorem orderedParts_of_perm (hne : sorted ≠ []) (hperm : parts.Perm sorted)
    (hsorted : sorted.Pairwise fun a b => a.number < b.number) :
    orderedParts parts = .ok sorted := by
  have hparts : parts ≠ [] := by
    rintro rfl
    exact hne hperm.symm.eq_nil
  have hnodup : (parts.map Part.number).Nodup := by
    rw [← repeatedNumber?_byNumber_eq_none_iff, byNumber_eq_of_perm hperm hsorted]
    exact repeatedNumber?_eq_none hsorted
  rw [orderedParts_of_nodup hparts hnodup, byNumber_eq_of_perm hperm hsorted]

theorem exists_refusal_of_orderedParts (h : parts = [] ∨ ¬(parts.map Part.number).Nodup) :
    ∃ m, orderedParts parts = .error (.invalidArgument m) := by
  rw [orderedParts_eq]
  split
  · exact ⟨_, rfl⟩
  · next hempty =>
    split
    · exact ⟨_, rfl⟩
    · next hnone =>
      rw [repeatedNumber?_byNumber_eq_none_iff] at hnone
      rcases h with rfl | hrepeats
      · exact absurd rfl hempty
      · exact absurd hnone hrepeats

/-- **The order of the parts decides nothing**, not even of which number is complained. -/
theorem orderedParts_eq_of_perm (h : parts.Perm parts') :
    orderedParts parts = orderedParts parts' := by
  have hrepeats : repeatedNumber? (byNumber parts) = repeatedNumber? (byNumber parts') :=
    repeatedNumber?_eq_of_map_eq (map_number_byNumber_eq_of_perm h)
  rw [orderedParts_eq, orderedParts_eq, h.isEmpty_eq, hrepeats]
  rcases hnumber : repeatedNumber? (byNumber parts') with _ | n
  · have hascending := pairwise_of_repeatedNumber?_eq_none (pairwise_byNumber parts') hnumber
    rw [byNumber_eq_of_perm (h.trans (byNumber_perm parts').symm) hascending]
  · rfl

end ObjectStore.Client
