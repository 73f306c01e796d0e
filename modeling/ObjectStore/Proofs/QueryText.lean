import ObjectStore.Proofs.Percent
import ObjectStore.Query
import ObjectStore.Text.Cut
/-!
# Query strings

The query string of some parameters is one piece for each of them, `name=value` with both sides
encoded, in the order of the names and with `&` between them.  No separator stands inside an
encoded side, so a reader that splits at `&` and then at the first `=` finds the pieces again:
`splitOn_text` and `cut_piece`.  A query string therefore says what the parameters are
(`get?_eq_of_text_eq`).
-/

namespace ObjectStore

theorem Text.mem_intercalate {c : Char} {sep : String} {l : List String}
    (h : c ∈ (sep.intercalate l).toList) : c ∈ sep.toList ∨ ∃ s ∈ l, c ∈ s.toList := by
  induction l with
  | nil => cases h
  | cons s l ih =>
    by_cases hl : l = []
    · subst hl
      rw [String.intercalate_singleton] at h
      exact .inr ⟨s, List.mem_cons_self, h⟩
    · rw [String.intercalate_cons_of_ne_nil hl, String.toList_append, String.toList_append,
        List.mem_append, List.mem_append] at h
      rcases h with (hs | hsep) | hrest
      · exact .inr ⟨s, List.mem_cons_self, hs⟩
      · exact .inl hsep
      · rcases ih hrest with hsep | ⟨t, ht, hc⟩
        · exact .inl hsep
        · exact .inr ⟨t, List.mem_cons_of_mem _ ht, hc⟩

namespace Query

open Percent

/-- The name and the value of a parameter, encoded.  A flag has the empty value. -/
def encodedPair (p : String × Option String) : String × String :=
  (encode .encoded p.1, encode .encoded (p.2.getD ""))

/-- How a parameter stands in a query string. -/
def piece (p : String × Option String) : String := (encodedPair p).1 ++ "=" ++ (encodedPair p).2

/-- The pieces of a query string, one for each parameter. -/
def pieces (q : Query) : List String := q.parameters.entries.map piece

/-! ### The text -/

theorem piece_ne_empty (p : String × Option String) : piece p ≠ "" := by
  intro h
  have hlist := congrArg String.toList h
  simp [piece] at hlist

theorem writeParameter_eq (text : String) (p : String × Option String) :
    writeParameter text p = (if text.isEmpty then text else text ++ "&") ++ piece p := by
  simp only [writeParameter, append_eq, piece, encodedPair, String.append_assoc]

theorem foldl_writeParameter {text : String} (h : text ≠ "") (l : List (String × Option String)) :
    l.foldl writeParameter text = "&".intercalate (text :: l.map piece) := by
  induction l generalizing text with
  | nil => rw [List.foldl_nil, List.map_nil, String.intercalate_singleton]
  | cons p l ih =>
    have hwritten : writeParameter text p = text ++ "&" ++ piece p := by
      rw [writeParameter_eq, if_neg (by simpa using h)]
    have hne : text ++ "&" ++ piece p ≠ "" := fun he => h (by simpa using congrArg String.toList he)
    rw [List.foldl_cons, hwritten, ih hne, List.map_cons, String.intercalate_cons_cons,
      String.intercalate_cons_append]

/-- **The query string is the pieces with `&` between them.** -/
theorem text_eq (q : Query) : q.text = "&".intercalate q.pieces := by
  rw [text, pieces]
  cases q.parameters.entries with
  | nil => rfl
  | cons p l =>
    have hwritten : writeParameter "" p = piece p := by
      rw [writeParameter_eq]
      exact String.empty_append
    rw [List.foldl_cons, hwritten, foldl_writeParameter (piece_ne_empty p), List.map_cons]

/-- Only a query without parameters has no text. -/
theorem text_ne_empty {q : Query} (h : q.parameters.entries ≠ []) : q.text ≠ "" := by
  rw [text_eq, pieces]
  revert h
  rcases q.parameters.entries with _ | ⟨p, l⟩
  · intro h
    exact absurd rfl h
  · intro _ he
    have hlist := congrArg String.toList he
    have hpiece : (piece p).toList ≠ [] := by simpa using piece_ne_empty p
    cases l with
    | nil => exact hpiece (by simpa using hlist)
    | cons p' l => simp [piece] at hlist

/-! ### Reading it -/

theorem notMem_piece {c : Char} (hcode : isCode .encoded c = false) (hne : c ≠ '=')
    (p : String × Option String) : c ∉ (piece p).toList := by
  have hname : c ∉ (encode .encoded p.1).toList := notMem_encode hcode _
  have hvalue : c ∉ (encode .encoded (p.2.getD "")).toList := notMem_encode hcode _
  simp only [piece, encodedPair, String.toList_append, List.mem_append, not_or]
  exact ⟨⟨hname, by simpa using hne⟩, hvalue⟩

/-- Splitting at `&` gives the pieces back, whatever parameters they are written from. -/
theorem splitOn_intercalate_piece {l : List (String × Option String)} (h : l ≠ []) :
    ("&".intercalate (l.map piece)).toList.splitOn '&' = (l.map piece).map String.toList := by
  rw [String.toList_intercalate]
  apply List.splitOn_intercalate '&'
  · intro cs hcs
    obtain ⟨p, _, rfl⟩ : ∃ p ∈ l, (piece p).toList = cs := by simpa using hcs
    exact notMem_piece (by decide) (by decide) p
  · simpa using h

/-- Splitting the query string at `&` gives the pieces; without parameters there is one empty
piece. -/
theorem splitOn_text {q : Query} (h : q.parameters.entries ≠ []) :
    q.text.toList.splitOn '&' = q.pieces.map String.toList := by
  rw [text_eq, pieces]
  exact splitOn_intercalate_piece h

theorem cut_piece (p : String × Option String) :
    Text.cut '=' (piece p).toList =
      ((encodedPair p).1.toList, some (encodedPair p).2.toList) := by
  have h : (piece p).toList = (encodedPair p).1.toList ++ '=' :: (encodedPair p).2.toList := by
    simp [piece]
  rw [h]
  exact Text.cut_append_sep (notMem_encode (by decide) p.1) _

/-! ### What the text says -/

/-- Queries with one text have the same pieces. -/
theorem pieces_eq_of_text_eq {q q' : Query} (h : q.text = q'.text) : q.pieces = q'.pieces := by
  have htext : ∀ {q : Query}, q.parameters.entries = [] → q.text = "" := by
    intro q hnil
    rw [text, hnil]
    rfl
  by_cases hq : q.parameters.entries = []
  · have hq' : q'.parameters.entries = [] :=
      Classical.byContradiction fun hne => text_ne_empty hne (h ▸ htext hq)
    rw [pieces, pieces, hq, hq']
  · have hq' : q'.parameters.entries ≠ [] := fun hnil => text_ne_empty hq (h.trans (htext hnil))
    have hsplit := splitOn_text hq
    rw [h, splitOn_text hq'] at hsplit
    exact ((List.map_inj_right fun _ _ => String.toList_inj.1).1 hsplit).symm

theorem encodedPair_eq_of_piece_eq {p p' : String × Option String} (h : piece p = piece p') :
    encodedPair p = encodedPair p' := by
  have hcut := cut_piece p
  rw [h, cut_piece p', Prod.mk.injEq, Option.some.injEq, String.toList_inj, String.toList_inj]
    at hcut
  exact Prod.ext hcut.1.symm hcut.2.symm

theorem lookup_eq_of_map_piece_eq {l l' : List (String × Option String)}
    (h : l.map piece = l'.map piece) (name : String) :
    (l.lookup name).map (·.getD "") = (l'.lookup name).map (·.getD "") := by
  induction l generalizing l' with
  | nil =>
    obtain rfl : l' = [] := List.map_eq_nil_iff.1 h.symm
    rfl
  | cons p l ih =>
    cases l' with
    | nil => cases h
    | cons p' l' =>
      rw [List.map_cons, List.map_cons, List.cons.injEq] at h
      obtain ⟨hname, hvalue⟩ := Prod.mk.inj (encodedPair_eq_of_piece_eq h.1)
      rw [Table.lookup_cons, Table.lookup_cons, encode_injective hname]
      split
      · rw [Option.map_some, Option.map_some, encode_injective hvalue]
      · exact ih h.2

/-- **Queries with one text give each parameter the same value**, a flag the empty one. -/
theorem get?_eq_of_text_eq {q q' : Query} (h : q.text = q'.text) (name : String) :
    (q.parameters.get? name).map (·.getD "") = (q'.parameters.get? name).map (·.getD "") :=
  lookup_eq_of_map_piece_eq (pieces_eq_of_text_eq h) name

end Query

end ObjectStore
