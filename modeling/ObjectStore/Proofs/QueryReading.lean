import ObjectStore.Proofs.QueryText
/-!
# Reading a query string

`Query.readText` takes a query string apart as the service does: at each `&`, each piece at its
first `=`, and both sides decoded.  **The parameters come back as they were, in their order**
(`Query.says_values`).  Only a flag and an empty value look the same, for both stand before
nothing behind their `=`; so a query string settles the parameters but for that.
-/

namespace ObjectStore.Query

/-- The names with their values, in the order of the names. A flag has the empty value. -/
def values (q : Query) : List (String × String) :=
  q.parameters.entries.map fun p => (p.1, p.2.getD "")

def readPiece (piece : String) : Option (String × String) :=
  match Text.cutText '=' piece with
  | (name, some value) => do return (← Percent.decode? name, ← Percent.decode? value)
  | (_, none) => none

def readText (text : String) : Option (List (String × String)) :=
  if text.isEmpty then some [] else (Text.splitText '&' text).mapM readPiece

/-! ### One piece -/

theorem readPiece_piece (p : String × Option String) :
    readPiece (piece p) = some (p.1, p.2.getD "") := by
  have hcut : Text.cutText '=' (piece p) = ((encodedPair p).1, some (encodedPair p).2) := by
    simp [Text.cutText, cut_piece]
  simp only [readPiece, hcut, encodedPair, Percent.decode?_encode]
  rfl

/-- The pieces of a parameter list are read back, one by one. -/
theorem mapM_readPiece (l : List (String × Option String)) :
    (l.map piece).mapM readPiece = some (l.map fun p => (p.1, p.2.getD "")) := by
  have hread : readPiece ∘ piece = fun p => pure (p.1, p.2.getD "") := by
    funext p
    exact readPiece_piece p
  rw [List.mapM_map, hread, List.mapM_pure]
  rfl

/-! ### The whole text -/

theorem text_eq_empty_iff (q : Query) : q.text = "" ↔ q.parameters.entries = [] := by
  constructor
  · intro h
    apply Classical.byContradiction
    intro hne
    exact text_ne_empty hne h
  · intro h
    rw [text, h, List.foldl_nil]

theorem readText_text (q : Query) : readText q.text = some q.values := by
  by_cases h : q.parameters.entries = []
  · have htext : q.text = "" := (text_eq_empty_iff q).2 h
    simp [readText, htext, values, h]
  · have hne : q.text.isEmpty = false := by simpa using text_ne_empty h
    have hsplit : Text.splitText '&' q.text = q.pieces := by
      simp [Text.splitText, splitOn_text h]
    rw [readText, hne, hsplit, pieces, mapM_readPiece, values]
    rfl

/-- The text is made of the names and the values alone. -/
theorem text_eq_of_values_eq {q q' : Query} (h : q.values = q'.values) : q.text = q'.text := by
  have hpieces : ∀ q : Query, q.pieces = q.values.map fun v =>
      Percent.encode .encoded v.1 ++ "=" ++ Percent.encode .encoded v.2 := by
    intro q
    rw [values, List.map_map]
    rfl
  rw [text_eq, text_eq, hpieces q, hpieces q', h]

/-- **A query string says what the parameters are.** It is read back as all of them in their order,
it is empty only if there are none, and two queries have one text exactly if they differ in nothing
but a flag here and an empty value there. -/
theorem says_values (q : Query) :
    readText q.text = some q.values ∧ (q.text = "" ↔ q.parameters.entries = []) ∧
      ∀ q' : Query, q'.text = q.text ↔ q'.values = q.values := by
  refine ⟨readText_text q, text_eq_empty_iff q, ?_⟩
  intro q'
  constructor
  · intro h
    have hread := readText_text q'
    rw [h, readText_text q] at hread
    exact (Option.some.inj hread).symm
  · intro h
    exact text_eq_of_values_eq h

end ObjectStore.Query
