import ObjectStore.Proofs.CanonicalQuery
/-!
# Where a query string is taken over

A query string is canonical when it is the written form of some parameters in order.  Rebuilding
gives a canonical text and changes no other one, so `IsCanonical` is the meaning of the check
that lets a query string through unchanged.

**The check is complete and not sound:** each canonical text passes it, and so do texts with
escapes in lower case, with a second equals sign or with equal names in the wrong order of
values.  `canonicalQuery_eq_rebuiltQuery_iff` says that the shortcut is right just where the
check means what it is for.
-/

namespace ObjectStore.Signature

open Query

/-- A text is canonical if it is written from parameters whose encoded pairs ascend. -/
def IsCanonical (query : String) : Prop :=
  ∃ parameters : List (String × Option String), parameters ≠ [] ∧
    (parameters.map encodedPair).Pairwise (fun a b => pairLe a b) ∧
    query = "&".intercalate (parameters.map piece)

/-! ### Rebuilding -/

/-- The parameter that a piece of a query string stands for. -/
def readPiece (piece : List Char) : String × Option String :=
  let (name, value) := Text.cut '=' piece
  let read (cs : List Char) := Percent.decodeOrKeep (String.ofList cs)
  (read name, some (read (value.getD [])))

theorem isCanonical_rebuiltQuery (query : String) : IsCanonical (rebuiltQuery query) := by
  let le (a b : String × Option String) : Bool := pairLe (encodedPair a) (encodedPair b)
  let parameters := ((query.toList.splitOn '&').map readPiece).mergeSort le
  -- sorting the parameters by their encoded pairs is sorting the encoded pairs
  have hpairs : parameters.map encodedPair =
      ((query.toList.splitOn '&').map rebuiltPair).mergeSort pairLe := by
    have hmap := List.map_mergeSort (l := (query.toList.splitOn '&').map readPiece)
      (r := le) (s := pairLe) (f := encodedPair) fun _ _ _ _ => rfl
    rw [hmap, List.map_map]
    rfl
  refine ⟨parameters, ?_, ?_, ?_⟩
  · intro hnil
    have hlength := congrArg List.length hnil
    simp [parameters] at hlength
  · rw [hpairs]
    exact List.pairwise_mergeSort pairLe_trans pairLe_total _
  · rw [rebuiltQuery, ← hpairs, List.map_map]
    rfl

theorem rebuiltQuery_of_isCanonical {query : String} (h : IsCanonical query) :
    rebuiltQuery query = query := by
  obtain ⟨parameters, hne, hsorted, rfl⟩ := h
  have hpairs : (("&".intercalate (parameters.map piece)).toList.splitOn '&').map rebuiltPair =
      parameters.map encodedPair := by
    rw [splitOn_intercalate_piece hne, List.map_map, List.map_map]
    apply List.map_congr_left
    intro p _
    exact rebuiltPair_piece p
  rw [rebuiltQuery, hpairs, List.mergeSort_of_pairwise hsorted, List.map_map]
  rfl

/-- **The canonical texts are those that rebuilding leaves alone.** -/
theorem rebuiltQuery_eq_self_iff {query : String} :
    rebuiltQuery query = query ↔ IsCanonical query := by
  constructor
  · intro h
    rw [← h]
    exact isCanonical_rebuiltQuery query
  · exact rebuiltQuery_of_isCanonical

theorem IsCanonical.ne_empty {query : String} (h : IsCanonical query) : query ≠ "" := by
  obtain ⟨parameters, hne, _, rfl⟩ := h
  intro hempty
  have hsplit := splitOn_intercalate_piece hne
  rw [hempty] at hsplit
  obtain ⟨p, rest, rfl⟩ := List.exists_cons_of_ne_nil hne
  have hpiece : [] = (piece p).toList := by
    simp only [List.map_cons] at hsplit
    exact (List.cons.inj hsplit).1
  exact piece_ne_empty p (String.toList_eq_nil_iff.1 hpiece.symm)

/-! ### The check -/

theorem isQueryChar_of_isCode {c : Char} (h : Percent.isCode .encoded c = true) :
    isQueryChar c = true := by
  simp only [Percent.isCode, Percent.isLiteral, Bool.or_eq_true, Bool.and_eq_true,
    decide_eq_true_eq] at h
  simp only [isQueryChar, Bool.or_eq_true, Bool.and_eq_true, decide_eq_true_eq]
  rcases h with rfl | ⟨hascii, hunreserved | ⟨hkept, _⟩⟩
  · exact .inr rfl
  · exact .inl (.inl (.inl ⟨hascii, hunreserved⟩))
  · cases hkept

theorem isQueryChar_of_mem_piece {p : String × Option String} {c : Char}
    (h : c ∈ (piece p).toList) : isQueryChar c = true := by
  simp only [piece, encodedPair, String.toList_append, List.mem_append] at h
  rcases h with (hname | hsign) | hvalue
  · exact isQueryChar_of_isCode (Percent.isCode_of_mem_encode hname)
  · obtain rfl : c = '=' := by simpa using hsign
    rfl
  · exact isQueryChar_of_isCode (Percent.isCode_of_mem_encode hvalue)

theorem all_isQueryChar_intercalate (l : List (String × Option String)) :
    ("&".intercalate (l.map piece)).toList.all isQueryChar = true := by
  rw [List.all_eq_true]
  intro c hc
  rcases Text.mem_intercalate hc with hsign | ⟨text, htext, hmem⟩
  · obtain rfl : c = '&' := by simpa using hsign
    rfl
  · obtain ⟨p, _, rfl⟩ := List.mem_map.1 htext
    exact isQueryChar_of_mem_piece hmem

/-- Pairs that ascend have names that do not descend. -/
theorem namesAscend_of_pairwise {l : List (String × Option String)} (last : String)
    (hlast : ∀ p ∈ l, last ≤ (encodedPair p).1)
    (h : (l.map encodedPair).Pairwise fun a b => pairLe a b) :
    namesAscend last.toList (l.map fun p => (piece p).toList) = true := by
  induction l generalizing last with
  | nil => rfl
  | cons p l ih =>
    rw [List.map_cons, List.pairwise_cons] at h
    have hnames : ∀ p' ∈ l, (encodedPair p).1 ≤ (encodedPair p').1 := by
      intro p' hp'
      have hle := h.1 (encodedPair p') (List.mem_map_of_mem hp')
      simp only [pairLe, Bool.or_eq_true, Bool.and_eq_true, decide_eq_true_eq] at hle
      rcases hle with hlt | ⟨heq, _⟩
      · exact String.not_lt.1 (String.lt_asymm hlt)
      · exact heq ▸ String.le_refl _
    have hnot : ¬ (encodedPair p).1.toList < last.toList :=
      String.not_lt.2 (hlast p List.mem_cons_self)
    simp only [List.map_cons, namesAscend, cut_piece, Bool.and_eq_true]
    refine ⟨⟨by simpa using hnot, rfl⟩, ?_⟩
    exact ih (encodedPair p).1 hnames h.2

/-- The check finds each canonical text. -/
theorem looksCanonical_of_isCanonical {query : String} (h : IsCanonical query) :
    looksCanonical query.toList = true := by
  obtain ⟨parameters, hne, hsorted, rfl⟩ := h
  rw [looksCanonical, all_isQueryChar_intercalate, splitOn_intercalate_piece hne, List.map_map,
    Bool.true_and]
  apply namesAscend_of_pairwise "" _ hsorted
  intro p _
  exact String.not_lt.1 (List.not_lt_nil _)

/-- **The shortcut is right just where its check is:** a query string becomes what rebuilding
makes of it if and only if it is not empty and is taken for canonical only if it is. -/
theorem canonicalQuery_eq_rebuiltQuery_iff (query : String) :
    canonicalQuery query = rebuiltQuery query ↔
      query ≠ "" ∧ (looksCanonical query.toList = true ↔ IsCanonical query) := by
  by_cases hempty : query = ""
  · subst hempty
    have hne : rebuiltQuery "" ≠ "" := (isCanonical_rebuiltQuery "").ne_empty
    constructor
    · intro h
      exact absurd h.symm hne
    · rintro ⟨h, _⟩
      exact absurd rfl h
  · have hnot : query.isEmpty = false := by simpa using hempty
    rw [canonicalQuery, hnot, if_neg Bool.false_ne_true]
    by_cases hlooks : looksCanonical query.toList = true
    · rw [if_pos hlooks, eq_comm, rebuiltQuery_eq_self_iff]
      simp [hempty, hlooks]
    · rw [if_neg hlooks]
      have hcanonical : ¬ IsCanonical query := fun h => hlooks (looksCanonical_of_isCanonical h)
      simp [hempty, hlooks, hcanonical]

/-- An escape in lower case is taken over, and so are a second equals sign and values in
descending order. -/
theorem canonicalQuery_lower_case_escape :
    (canonicalQuery "a=%2f" = "a=%2f" ∧ rebuiltQuery "a=%2f" = "a=%2F") ∧
      (canonicalQuery "a=b=c" = "a=b=c" ∧ rebuiltQuery "a=b=c" = "a=b%3Dc") ∧
      (canonicalQuery "a=2&a=1" = "a=2&a=1" ∧ rebuiltQuery "a=2&a=1" = "a=1&a=2") := by
  have hpairs : ("a=2&a=1".toList.splitOn '&').map rebuiltPair = [("a", "2"), ("a", "1")] := by
    decide +kernel
  -- sorting is by well-founded recursion, which does not compute here
  have hsorted : [("a", "2"), ("a", "1")].mergeSort pairLe = [("a", "1"), ("a", "2")] :=
    mergeSort_eq_of_perm pairLe_trans pairLe_total (.swap _ _ _) (by decide)
  refine ⟨⟨by decide, ?_⟩, ⟨by decide, ?_⟩, by decide, ?_⟩
  · with_unfolding_all rfl
  · with_unfolding_all rfl
  · rw [rebuiltQuery, hpairs, hsorted]
    decide +kernel

end ObjectStore.Signature
