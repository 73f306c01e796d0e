import ObjectStore.Proofs.Xml.Trim
import ObjectStore.Xml.Node
/-!
# Reading tags

The written forms of tags, with any attributes, and how they are read as tokens: what stands
between `<` and `>` is one token (`nextToken_tag`), and so is the text up to the next tag
(`nextToken_run`).
-/

namespace ObjectStore.Xml

/-! ### Written forms -/

/-- A name that every tag can have: letters and digits of ASCII. -/
structure IsName (name : String) : Prop where
  ne_empty : name ≠ ""
  alphanum : ∀ c ∈ name.toList, c.isAlphanum = true

instance (name : String) : Decidable (IsName name) :=
  decidable_of_iff (name ≠ "" ∧ name.toList.all Char.isAlphanum = true)
    ⟨fun h => ⟨h.1, List.all_eq_true.1 h.2⟩, fun h => ⟨h.1, List.all_eq_true.2 h.2⟩⟩

/-- An attribute with its value between double quotes. -/
def attributeBytes (a : String × String) : Bytes :=
  32 :: (utf8 a.1 ++ [61, 34] ++ utf8 (escape a.2) ++ [34])

/-- What stands in a start tag. -/
def tagContent (name : String) (attributes : List (String × String)) : Bytes :=
  utf8 name ++ attributes.flatMap attributeBytes

def startTag (name : String) (attributes : List (String × String)) : Bytes :=
  60 :: (tagContent name attributes ++ [62])

/-- The tag of an element that has no content. -/
def emptyTag (name : String) (attributes : List (String × String)) : Bytes :=
  60 :: (tagContent name attributes ++ [47, 62])

def endTag (name : String) : Bytes := 60 :: 47 :: (utf8 name ++ [62])

/-- Text between double quotes. -/
def quotedText (content : String) : Bytes := 34 :: (utf8 (escape content) ++ [34])

theorem utf8_quoted (content : String) :
    utf8 ("\"" ++ escape content ++ "\"") = quotedText content := by
  rw [utf8_append, utf8_append]
  rfl

def AllBlank (s : Bytes) : Prop := ∀ b ∈ s, Text.isXmlBlank b = true

instance (s : Bytes) : Decidable (AllBlank s) :=
  decidable_of_iff (s.all Text.isXmlBlank = true) List.all_eq_true

theorem allBlank_nil : AllBlank [] := by
  intro b hb
  cases hb

/-- Attributes may have a prefix in their names. -/
def AreNames (attributes : List (String × String)) : Prop :=
  ∀ a ∈ attributes, ∀ c ∈ a.1.toList, c.isAlphanum = true ∨ c = ':'

theorem areNames_nil : AreNames [] := by
  intro a ha
  cases ha

/-- The bytes with a meaning of their own in tags: blanks, `!`, `"`, `'`, `/`, `<`, `>` and
`?`. -/
def tagMarks : Bytes := [9, 10, 13, 32, 33, 34, 39, 47, 60, 62, 63]

/-- A name that a tag can have, with or without a prefix, in any script. -/
structure IsTagName (name : String) : Prop where
  ne_empty : name ≠ ""
  notMem : ∀ {b : UInt8}, b ∈ tagMarks → b ∉ utf8 name

instance (name : String) : Decidable (IsTagName name) :=
  decidable_of_iff (name ≠ "" ∧ tagMarks.all (fun b => !(utf8 name).contains b) = true)
    ⟨fun h => ⟨h.1, fun hb => by simpa using List.all_eq_true.1 h.2 _ hb⟩,
      fun h => ⟨h.1, List.all_eq_true.2 fun b hb => by simpa using h.2 hb⟩⟩

/-! ### Tags -/

theorem notMem_utf8_of_alphanum {name : String}
    (h : ∀ c ∈ name.toList, c.isAlphanum = true ∨ c = ':') {b : UInt8} (hb : b ∈ tagMarks) :
    b ∉ utf8 name := by
  have hmarks : tagMarks.all (fun b => b.toNat < 128 ∧ (Char.ofNat b.toNat).isAlphanum = false ∧
      Char.ofNat b.toNat ≠ ':') = true := by decide
  obtain ⟨hascii, halphanum, hcolon⟩ := of_decide_eq_true (List.all_eq_true.1 hmarks b hb)
  intro hmem
  rcases h _ ((mem_utf8_iff hascii name).1 hmem) with h | h
  · rw [halphanum] at h
    cases h
  · exact hcolon h

/-- No character is written with one of those that have a meaning of their own. -/
theorem notMem_escapeChar (c : Char) : ∀ d ∈ ['<', '>', '"', '\''], d ∉ escapeChar c := by
  unfold escapeChar
  split
  · simp
  · simp
  · simp
  · simp
  · simp
  · next hlt hgt hquot hapos =>
    intro d hd hmem
    obtain rfl := List.mem_singleton.1 hmem
    simp_all

theorem notMem_utf8_escape {b : UInt8} (hb : b ∈ [60, 62, 34, 39]) (s : String) :
    b ∉ utf8 (escape s) := by
  have hascii : b.toNat < 128 ∧ Char.ofNat b.toNat ∈ ['<', '>', '"', '\''] := by
    simp only [List.mem_cons, List.not_mem_nil, or_false] at hb
    rcases hb with rfl | rfl | rfl | rfl <;> decide
  rw [mem_utf8_iff hascii.1, escape, String.toList_ofList, List.mem_flatMap]
  rintro ⟨c, _, hc⟩
  exact notMem_escapeChar c _ hascii.2 hc

/-- Bytes of a tag that leave no quote open and have no `>` outside quotes. -/
def Inside (content : Bytes) : Prop :=
  ∀ rest, cutTag? none (content ++ rest) =
    (cutTag? none rest).map fun (before, after) => (content ++ before, after)

theorem Inside.append {first second : Bytes} (hfirst : Inside first) (hsecond : Inside second) :
    Inside (first ++ second) := by
  intro rest
  rw [List.append_assoc, hfirst, hsecond, Option.map_map]
  congr 1
  funext ⟨before, after⟩
  simp

theorem inside_nil : Inside [] := by
  intro rest
  simp

theorem inside_of_notMem {content : Bytes} (hclose : 62 ∉ content) (hquot : 34 ∉ content)
    (hapos : 39 ∉ content) : Inside content := by
  induction content with
  | nil => exact inside_nil
  | cons b content ih =>
    rw [List.mem_cons, not_or] at hclose hquot hapos
    intro rest
    rw [List.cons_append, cutTag?]
    simp only [Ne.symm hclose.1, Ne.symm hquot.1, Ne.symm hapos.1, true_and, if_false, or_self]
    rw [ih hclose.2 hquot.2 hapos.2, Option.map_map]
    rfl

theorem cutTag?_quoted {content : Bytes} (h : 34 ∉ content) (rest : Bytes) :
    cutTag? (some 34) (content ++ 34 :: rest) =
      (cutTag? none rest).map fun (before, after) => (content ++ 34 :: before, after) := by
  induction content with
  | nil =>
    rw [List.nil_append, cutTag?]
    simp
  | cons b content ih =>
    rw [List.mem_cons, not_or] at h
    rw [List.cons_append, cutTag?]
    simp only [reduceCtorEq, false_and, if_false, if_neg (Ne.symm h.1)]
    rw [ih h.2, Option.map_map]
    rfl

theorem inside_utf8_of_alphanum {name : String}
    (h : ∀ c ∈ name.toList, c.isAlphanum = true ∨ c = ':') : Inside (utf8 name) := by
  apply inside_of_notMem
  · exact notMem_utf8_of_alphanum h (by decide)
  · exact notMem_utf8_of_alphanum h (by decide)
  · exact notMem_utf8_of_alphanum h (by decide)

theorem inside_quoted {content : Bytes} (h : 34 ∉ content) :
    Inside (34 :: (content ++ [34])) := by
  intro rest
  have hopen : ∀ s, cutTag? none (34 :: s) =
      (cutTag? (some 34) s).map fun (before, after) => (34 :: before, after) := fun s => rfl
  rw [List.cons_append, List.append_assoc, List.singleton_append, hopen, cutTag?_quoted h,
    Option.map_map]
  congr 1
  funext ⟨before, after⟩
  simp

theorem inside_attributeBytes {a : String × String}
    (h : ∀ c ∈ a.1.toList, c.isAlphanum = true ∨ c = ':') : Inside (attributeBytes a) := by
  have hparts : attributeBytes a = [32] ++ utf8 a.1 ++ [61] ++
      34 :: (utf8 (escape a.2) ++ [34]) := by
    simp [attributeBytes]
  have hblank : Inside [32] := inside_of_notMem (by decide) (by decide) (by decide)
  have hequals : Inside [61] := inside_of_notMem (by decide) (by decide) (by decide)
  have hvalue : Inside (34 :: (utf8 (escape a.2) ++ [34])) :=
    inside_quoted (notMem_utf8_escape (by decide) _)
  rw [hparts]
  exact ((hblank.append (inside_utf8_of_alphanum h)).append hequals).append hvalue

theorem IsName.isTagName {name : String} (h : IsName name) : IsTagName name :=
  ⟨h.ne_empty, fun hb => notMem_utf8_of_alphanum (fun c hc => .inl (h.alphanum c hc)) hb⟩

theorem IsTagName.inside {name : String} (h : IsTagName name) : Inside (utf8 name) := by
  apply inside_of_notMem
  · exact h.notMem (by decide)
  · exact h.notMem (by decide)
  · exact h.notMem (by decide)

theorem inside_tagContent {name : String} {attributes : List (String × String)}
    (hname : IsTagName name) (hattributes : AreNames attributes) :
    Inside (tagContent name attributes) := by
  refine hname.inside.append ?_
  induction attributes with
  | nil => exact inside_nil
  | cons a attributes ih =>
    rw [AreNames, List.forall_mem_cons] at hattributes
    exact (inside_attributeBytes hattributes.1).append (ih hattributes.2)

theorem IsTagName.exists_cons {name : String} (h : IsTagName name) :
    ∃ b s, utf8 name = b :: s ∧ b ∉ tagMarks := by
  rcases hs : utf8 name with _ | ⟨b, s⟩
  · have hempty : utf8 name = utf8 "" := hs
    exact absurd (utf8_inj hempty) h.ne_empty
  · refine ⟨b, s, rfl, fun hb => h.notMem hb ?_⟩
    rw [hs]
    exact List.mem_cons_self

theorem IsTagName.not_blank {name : String} (h : IsTagName name) {b : UInt8}
    (hb : b ∈ utf8 name) : Text.isXmlBlank b = false := by
  cases hblank : Text.isXmlBlank b with
  | false => rfl
  | true =>
    simp only [Text.isXmlBlank, Bool.or_eq_true, decide_eq_true_eq] at hblank
    rcases hblank with ((rfl | rfl) | rfl) | rfl <;> exact absurd hb (h.notMem (by decide))

theorem takeWhile_tagContent {name : String} (h : IsTagName name)
    (attributes : List (String × String)) :
    (tagContent name attributes).takeWhile (!Text.isXmlBlank ·) = utf8 name := by
  rw [tagContent, List.takeWhile_append_of_pos fun b hb => by rw [h.not_blank hb]; rfl]
  cases attributes with
  | nil => simp
  | cons a attributes =>
    have hblank : Text.isXmlBlank 32 = true := rfl
    simp [attributeBytes, hblank]

theorem getLast?_tagContent {name : String} (h : IsTagName name)
    (attributes : List (String × String)) : (tagContent name attributes).getLast? ≠ some 47 := by
  rw [tagContent]
  rcases List.eq_nil_or_concat attributes with rfl | ⟨l, a, rfl⟩
  · rw [List.flatMap_nil, List.append_nil]
    exact fun hlast => h.notMem (by decide) (List.mem_of_mem_getLast? hlast)
  · have hlast : (tagContent name (l.concat a)).getLast? = some 34 := by
      have hquote : tagContent name (l.concat a) = (utf8 name ++ l.flatMap attributeBytes ++
          (32 :: (utf8 a.1 ++ [61, 34] ++ utf8 (escape a.2)))) ++ [34] := by
        simp [tagContent, attributeBytes]
      rw [hquote, List.getLast?_concat]
    rw [tagContent] at hlast
    rw [hlast]
    decide

/-! ### One token -/

/-- What stands between `<` and `>` is one token. -/
theorem nextToken_tag {b : UInt8} {content : Bytes} (hinside : Inside (b :: content))
    (hb : b ≠ 33 ∧ b ≠ 63) (rest : Bytes) :
    nextToken 60 (b :: content ++ 62 :: rest) = .ok (some (tagToken (b :: content)), rest) := by
  have hcut : cutTag? none (b :: content ++ 62 :: rest) = some (b :: content, rest) := by
    rw [hinside]
    simp [cutTag?]
  rw [nextToken, if_pos rfl, List.cons_append, markup.eq_def]
  split
  · next heq =>
    cases heq
    exact absurd rfl hb.1
  · next heq =>
    cases heq
    exact absurd rfl hb.2
  · rw [← List.cons_append, hcut]

section Tags

variable {name : String} {attributes : List (String × String)}

theorem exists_tagContent (h : IsTagName name) (attributes : List (String × String)) :
    ∃ b s, tagContent name attributes = b :: s ∧ b ∉ tagMarks := by
  obtain ⟨b, s, hs, hb⟩ := h.exists_cons
  exact ⟨b, s ++ attributes.flatMap attributeBytes, by simp [tagContent, hs], hb⟩

theorem tagToken_of_name {b : UInt8} (h : b ∉ tagMarks) (s : Bytes) :
    tagToken (b :: s) =
      if (b :: s).getLast? = some 47 then
        .empty ((b :: s).dropLast.takeWhile (!Text.isXmlBlank ·))
      else .start ((b :: s).takeWhile (!Text.isXmlBlank ·)) := by
  unfold tagToken
  split
  · next heq =>
    cases heq
    exact absurd (by decide) h
  · rfl

theorem ne_of_notMem_tagMarks {b : UInt8} (h : b ∉ tagMarks) : b ≠ 33 ∧ b ≠ 63 := by
  constructor
  · rintro rfl
    exact h (by decide)
  · rintro rfl
    exact h (by decide)

theorem nextToken_startTag (h : IsTagName name) (hattributes : AreNames attributes)
    (rest : Bytes) :
    nextToken 60 (tagContent name attributes ++ 62 :: rest) =
      .ok (some (.start (utf8 name)), rest) := by
  have hinside := inside_tagContent h hattributes
  have hlast := getLast?_tagContent h attributes
  have htake := takeWhile_tagContent h attributes
  obtain ⟨b, s, hs, hb⟩ := exists_tagContent h attributes
  rw [hs] at hinside hlast htake ⊢
  rw [nextToken_tag hinside (ne_of_notMem_tagMarks hb), tagToken_of_name hb, if_neg hlast, htake]

theorem nextToken_emptyTag (h : IsTagName name) (hattributes : AreNames attributes)
    (rest : Bytes) :
    nextToken 60 (tagContent name attributes ++ 47 :: 62 :: rest) =
      .ok (some (.empty (utf8 name)), rest) := by
  have hslash : Inside [47] := inside_of_notMem (by decide) (by decide) (by decide)
  have hinside := (inside_tagContent h hattributes).append hslash
  have htake := takeWhile_tagContent h attributes
  obtain ⟨b, s, hs, hb⟩ := exists_tagContent h attributes
  rw [hs] at hinside htake ⊢
  rw [List.cons_append] at hinside
  have hbytes : b :: s ++ 47 :: 62 :: rest = b :: (s ++ [47]) ++ 62 :: rest := by simp
  have hdrop : (b :: (s ++ [47])).dropLast = b :: s := by
    rw [← List.cons_append, List.dropLast_concat]
  have hlast : (b :: (s ++ [47])).getLast? = some 47 := by
    rw [← List.cons_append, List.getLast?_concat]
  rw [hbytes, nextToken_tag hinside (ne_of_notMem_tagMarks hb), tagToken_of_name hb,
    if_pos hlast, hdrop, htake]

theorem nextToken_endTag (h : IsTagName name) (rest : Bytes) :
    nextToken 60 (47 :: (utf8 name ++ 62 :: rest)) = .ok (some (.finish (utf8 name)), rest) := by
  have hslash : Inside [47] := inside_of_notMem (by decide) (by decide) (by decide)
  have hinside : Inside (47 :: utf8 name) :=
    hslash.append h.inside
  have htrim : Text.trimEnd Text.isXmlBlank (utf8 name) = utf8 name :=
    Text.trimEnd_eq_self fun b hb => h.not_blank (List.mem_of_mem_getLast? hb)
  have htoken : tagToken (47 :: utf8 name) = .finish (utf8 name) := by
    obtain ⟨b, s, hs, _⟩ := h.exists_cons
    rw [hs] at htrim ⊢
    simp only [tagToken, tagToken.isXmlBlank, htrim]
  have htag := nextToken_tag hinside (by decide) rest
  rw [htoken] at htag
  exact htag

end Tags

/-- Whatever comes next is a tag or the end. -/
def AtTag (s : Bytes) : Prop := ∀ b, s.head? = some b → b = 60

theorem atTag_nil : AtTag [] := by
  intro b hb
  cases hb

theorem atTag_cons (s : Bytes) : AtTag (60 :: s) := by
  intro b hb
  simpa using hb.symm

theorem takeWhile_of_atTag {run rest : Bytes} (hrun : 60 ∉ run) (hrest : AtTag rest) :
    (run ++ rest).takeWhile (· != 60) = run ∧ (run ++ rest).dropWhile (· != 60) = rest := by
  have hall : ∀ b ∈ run, (b != 60) = true := by
    intro b hb
    rw [bne_iff_ne]
    rintro rfl
    exact hrun hb
  rw [List.takeWhile_append_of_pos hall, List.dropWhile_append_of_pos hall]
  cases rest with
  | nil => simp
  | cons b rest =>
    obtain rfl := hrest b rfl
    simp

/-- A run of text up to the next tag. -/
theorem nextToken_run {b : UInt8} {run rest : Bytes} (hrun : 60 ∉ b :: run)
    (hrest : AtTag rest) :
    nextToken b (run ++ rest) = .ok (textToken (b :: run), rest) := by
  rw [List.mem_cons, not_or] at hrun
  obtain ⟨htake, hdrop⟩ := takeWhile_of_atTag hrun.2 hrest
  rw [nextToken, if_neg (Ne.symm hrun.1), htake, hdrop]

end ObjectStore.Xml
