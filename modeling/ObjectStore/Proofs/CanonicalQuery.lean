import ObjectStore.Proofs.Lists
import ObjectStore.Proofs.QueryText
import ObjectStore.Signature.CanonicalQuery
/-!
# The query string that a signature covers

A receiver sorts the encoded parameters by their encoded names (`Query.canonicalText`).  The
parameters of a query are in the order of their raw names, which is another order, so the
signer must sort as well, and may skip that only where both orders agree.  Both of its ways lead
to the receiver's text: `Signature.canonicalQuery_text`.
-/

namespace ObjectStore

namespace Query

def nameLe (a b : String × String) : Bool := a.1 ≤ b.1

/-- The encoded parameters by encoded name, each as `name=value`. -/
def canonicalText (q : Query) : String :=
  "&".intercalate
    (((q.parameters.entries.map encodedPair).mergeSort nameLe).map fun p => p.1 ++ "=" ++ p.2)

/-! ### Distinct names -/

def Distinct (l : List (String × String)) : Prop := l.Pairwise fun a b => a.1 ≠ b.1

/-- Different parameters have different encoded names. -/
theorem distinct_encodedPairs (q : Query) : Distinct (q.parameters.entries.map encodedPair) := by
  apply List.pairwise_map.2
  apply q.parameters.sorted.imp
  intro p p' hlt heq
  exact String.ne_of_lt hlt (Percent.encode_injective heq)

theorem nameLe_trans (a b c : String × String) (hab : nameLe a b = true) (hbc : nameLe b c = true) :
    nameLe a c = true := by
  simp only [nameLe, decide_eq_true_eq] at hab hbc ⊢
  exact String.le_trans hab hbc

theorem nameLe_total (a b : String × String) : (nameLe a b || nameLe b a) = true := by
  simp only [nameLe, Bool.or_eq_true, decide_eq_true_eq]
  exact String.le_total a.1 b.1

theorem lt_of_nameLe {a b : String × String} (hle : nameLe a b = true) (hne : a.1 ≠ b.1) :
    a.1 < b.1 := by
  simp only [nameLe, decide_eq_true_eq] at hle
  apply Decidable.byContradiction
  intro hlt
  exact hne (String.le_antisymm hle (String.not_lt.1 hlt))

/-- Distinct names that are sorted ascend strictly. -/
theorem ascending_mergeSort {l : List (String × String)} (h : Distinct l) :
    (l.mergeSort nameLe).Pairwise fun a b => a.1 < b.1 := by
  have hdistinct : Distinct (l.mergeSort nameLe) :=
    (List.mergeSort_perm l nameLe).symm.pairwise h (fun hne => hne.symm)
  have hsorted := List.pairwise_mergeSort nameLe_trans nameLe_total l
  apply (hsorted.and hdistinct).imp
  intro a b hab
  exact lt_of_nameLe hab.1 hab.2

end Query

namespace Signature

open Query

/-! ### The long way -/

theorem rebuiltPair_piece (p : String × Option String) :
    rebuiltPair (piece p).toList = encodedPair p := by
  simp only [rebuiltPair, cut_piece, Option.getD_some, String.ofList_toList]
  simp only [encodedPair, Percent.decodeOrKeep_encode]

theorem pairLe_trans (a b c : String × String) (hab : pairLe a b = true) (hbc : pairLe b c = true) :
    pairLe a c = true := by
  simp only [pairLe, Bool.or_eq_true, Bool.and_eq_true, decide_eq_true_eq] at hab hbc ⊢
  rcases hab with hab | ⟨hab, hab'⟩
  · rcases hbc with hbc | ⟨hbc, _⟩
    · exact .inl (String.lt_trans hab hbc)
    · exact .inl (hbc ▸ hab)
  · rcases hbc with hbc | ⟨hbc, hbc'⟩
    · exact .inl (hab ▸ hbc)
    · exact .inr ⟨hab.trans hbc, String.le_trans hab' hbc'⟩

theorem pairLe_total (a b : String × String) : (pairLe a b || pairLe b a) = true := by
  simp only [pairLe, Bool.or_eq_true, Bool.and_eq_true, decide_eq_true_eq]
  by_cases hlt : a.1 < b.1
  · exact .inl (.inl hlt)
  · by_cases hgt : b.1 < a.1
    · exact .inr (.inl hgt)
    · have heq : a.1 = b.1 := String.le_antisymm (String.not_lt.1 hgt) (String.not_lt.1 hlt)
      rcases String.le_total a.2 b.2 with hle | hle
      · exact .inl (.inr ⟨heq, hle⟩)
      · exact .inr (.inr ⟨heq.symm, hle⟩)

theorem pairLe_eq_false_of_lt {a b : String × String} (h : a.1 < b.1) : pairLe b a = false := by
  have hlt : ¬ b.1 < a.1 := String.lt_asymm h
  have hne : b.1 ≠ a.1 := (String.ne_of_lt h).symm
  simp [pairLe, hlt, hne]

/-- Where names are distinct, the values have no say in the order. -/
theorem mergeSort_pairLe {l : List (String × String)} (h : Distinct l) :
    l.mergeSort pairLe = l.mergeSort nameLe := by
  apply mergeSort_eq_of_perm pairLe_trans pairLe_total (List.mergeSort_perm l nameLe).symm
  apply (ascending_mergeSort h).imp
  intro a b hab
  exact pairLe_eq_false_of_lt hab

theorem rebuiltQuery_text {q : Query} (h : q.parameters.entries ≠ []) :
    rebuiltQuery q.text = q.canonicalText := by
  have hpairs : (q.text.toList.splitOn '&').map rebuiltPair =
      q.parameters.entries.map encodedPair := by
    rw [splitOn_text h, pieces, List.map_map, List.map_map]
    apply List.map_congr_left
    intro p _
    exact rebuiltPair_piece p
  rw [rebuiltQuery, hpairs, mergeSort_pairLe (distinct_encodedPairs q), canonicalText]

/-! ### The short way -/

/-- The check of the order compares the encoded names. -/
theorem pairwise_of_namesAscend {l : List (String × Option String)} (last : String)
    (h : namesAscend last.toList (l.map fun p => (piece p).toList) = true) :
    (∀ p ∈ l, last ≤ (encodedPair p).1) ∧ (l.map encodedPair).Pairwise fun a b => nameLe a b := by
  induction l generalizing last with
  | nil => simp
  | cons p l ih =>
    simp only [List.map_cons, namesAscend, cut_piece, Bool.and_eq_true] at h
    obtain ⟨⟨hlast, -⟩, hrest⟩ := h
    have hle : last ≤ (encodedPair p).1 := by
      apply String.not_lt.1
      intro hlt
      have : (encodedPair p).1.toList < last.toList := hlt
      simp [this] at hlast
    obtain ⟨hnames, hsorted⟩ := ih (encodedPair p).1 hrest
    constructor
    · intro p' hp'
      rcases List.mem_cons.1 hp' with rfl | hmem
      · exact hle
      · exact String.le_trans hle (hnames p' hmem)
    · rw [List.map_cons, List.pairwise_cons]
      refine ⟨?_, hsorted⟩
      intro a ha
      obtain ⟨p', hp', rfl⟩ := List.mem_map.1 ha
      exact decide_eq_true (hnames p' hp')

theorem text_eq_of_looksCanonical {q : Query} (hne : q.parameters.entries ≠ [])
    (h : looksCanonical q.text.toList = true) : q.text = q.canonicalText := by
  rw [looksCanonical, splitOn_text hne, pieces, List.map_map, Bool.and_eq_true] at h
  have hsorted := (pairwise_of_namesAscend "" h.2).2
  rw [text_eq, pieces, canonicalText, List.mergeSort_of_pairwise hsorted, List.map_map]
  rfl

/-- **What is signed is what a receiver makes of the parameters,** whichever way it is found. -/
theorem canonicalQuery_text (q : Query) : canonicalQuery q.text = q.canonicalText := by
  by_cases hentries : q.parameters.entries = []
  · have htext : q.text = "" := by rw [text, hentries, List.foldl_nil]
    rw [htext, canonicalText, hentries, List.map_nil, List.mergeSort_nil]
    rfl
  · have hempty : q.text.isEmpty = false := by simpa using text_ne_empty hentries
    rw [canonicalQuery, hempty, if_neg (by decide)]
    by_cases hlooks : looksCanonical q.text.toList = true
    · rw [if_pos hlooks]
      exact text_eq_of_looksCanonical hentries hlooks
    · rw [if_neg hlooks]
      exact rebuiltQuery_text hentries

end Signature

end ObjectStore
