import ObjectStore.Text.Blank
import ObjectStore.Xml.Escape
/-!
# Trimming what is written

The reader drops blank bytes at the two ends of a run of text before anything else.  In
escaped text that comes to the same as dropping blank characters first: blanks are written
as blanks, and every other character is written by bytes that begin and end with no blank
(`trimBoth_utf8_escape`).
-/

namespace ObjectStore

/-! ### Bytes of characters -/

theorem utf8EncodeChar_of_ascii {c : Char} (h : c.toNat < 128) :
    String.utf8EncodeChar c = [UInt8.ofNat c.toNat] := by
  have hval : c.val.toNat ≤ 127 := by
    simp only [Char.toNat] at h
    omega
  simp only [String.utf8EncodeChar, if_pos hval, Char.toNat]

/-- Beyond ASCII each byte of a character has its highest bit set. -/
theorem le_of_mem_utf8EncodeChar {c : Char} (h : 128 ≤ c.toNat) {b : UInt8}
    (hb : b ∈ String.utf8EncodeChar c) : 128 ≤ b.toNat := by
  have hval : ¬ c.val.toNat ≤ 127 := by
    simp only [Char.toNat] at h
    omega
  simp only [String.utf8EncodeChar, if_neg hval] at hb
  split at hb
  · simp only [List.mem_cons, List.not_mem_nil, or_false] at hb
    rcases hb with rfl | rfl <;> simp only [UInt8.toNat_ofNat'] <;> omega
  · split at hb
    · simp only [List.mem_cons, List.not_mem_nil, or_false] at hb
      rcases hb with rfl | rfl | rfl <;> simp only [UInt8.toNat_ofNat'] <;> omega
    · simp only [List.mem_cons, List.not_mem_nil, or_false] at hb
      rcases hb with rfl | rfl | rfl | rfl <;> simp only [UInt8.toNat_ofNat'] <;> omega

theorem utf8_eq (s : String) : utf8 s = s.toList.flatMap String.utf8EncodeChar := by
  rw [← utf8_ofList, String.ofList_toList]

/-- An ASCII byte stands where its character does. -/
theorem mem_utf8_iff {b : UInt8} (h : b.toNat < 128) (s : String) :
    b ∈ utf8 s ↔ Char.ofNat b.toNat ∈ s.toList := by
  have hchar : (Char.ofNat b.toNat).toNat = b.toNat := by
    rw [Char.ofNat, dif_pos (.inl (by omega))]
    rfl
  rw [utf8_eq, List.mem_flatMap]
  constructor
  · rintro ⟨c, hc, hb⟩
    by_cases hascii : c.toNat < 128
    · rw [utf8EncodeChar_of_ascii hascii, List.mem_singleton] at hb
      have hnat : b.toNat = c.toNat := by
        rw [hb, UInt8.toNat_ofNat']
        omega
      rw [hnat, Char.ofNat_toNat]
      exact hc
    · have hle := le_of_mem_utf8EncodeChar (Nat.not_lt.1 hascii) hb
      omega
  · intro hc
    refine ⟨_, hc, ?_⟩
    rw [utf8EncodeChar_of_ascii (by omega), hchar, UInt8.ofNat_toNat]
    exact List.mem_singleton_self b

namespace Text

variable {α β : Type}

/-! ### Trimming a written form -/

/-- The written forms `f` of single values are never empty, and they show at both ends whether
the value is one to be trimmed: such a value is written by nothing but members of `q`. -/
structure Edged (p : α → Bool) (q : β → Bool) (f : α → List β) : Prop where
  ne_nil : ∀ a, f a ≠ []
  blank : ∀ a, p a = true → ∀ b ∈ f a, q b = true
  head : ∀ a, p a = false → ∀ b, (f a).head? = some b → q b = false
  last : ∀ a, p a = false → ∀ b, (f a).getLast? = some b → q b = false

theorem trimEnd_eq_nil {p : α → Bool} {l : List α} :
    trimEnd p l = [] ↔ ∀ a ∈ l, p a = true := by
  induction l with
  | nil => simp [trimEnd]
  | cons a l ih =>
    rw [trimEnd, List.forall_mem_cons, ← ih]
    rcases trimEnd p l with _ | ⟨b, r⟩
    · by_cases ha : p a = true <;> simp [ha]
    · simp

theorem trimEnd_append {p : α → Bool} (first second : List α) :
    trimEnd p (first ++ second) =
      if trimEnd p second = [] then trimEnd p first else first ++ trimEnd p second := by
  induction first with
  | nil =>
    split
    · next h => rw [List.nil_append, h, trimEnd]
    · rfl
  | cons a first ih =>
    rw [List.cons_append, trimEnd, ih]
    by_cases hsecond : trimEnd p second = []
    · rw [if_pos hsecond, if_pos hsecond, trimEnd]
    · rw [if_neg hsecond, if_neg hsecond]
      rcases h : first ++ trimEnd p second with _ | ⟨b, r⟩
      · exact absurd (List.append_eq_nil_iff.1 h).2 hsecond
      · rw [List.cons_append, h]

theorem trimEnd_eq_self {p : α → Bool} {l : List α}
    (h : ∀ a, l.getLast? = some a → p a = false) : trimEnd p l = l := by
  rcases List.eq_nil_or_concat l with rfl | ⟨first, a, rfl⟩
  · rfl
  · have ha : p a = false := h a (by simp)
    have hlast : trimEnd p [a] = [a] := by simp [trimEnd, ha]
    rw [List.concat_eq_append, trimEnd_append, hlast, if_neg (List.cons_ne_nil a [])]

theorem length_trimEnd_le (p : α → Bool) (l : List α) : (trimEnd p l).length ≤ l.length := by
  induction l with
  | nil => exact Nat.le_refl 0
  | cons a l ih =>
    rw [trimEnd]
    split
    · split
      · exact Nat.zero_le _
      · exact Nat.succ_le_succ (Nat.zero_le _)
    · exact Nat.succ_le_succ ih

theorem trimEnd_eq_self_iff {p : α → Bool} {l : List α} :
    trimEnd p l = l ↔ ∀ a, l.getLast? = some a → p a = false := by
  refine ⟨fun h a ha => ?_, trimEnd_eq_self⟩
  obtain ⟨first, rfl⟩ := List.getLast?_eq_some_iff.1 ha
  cases hp : p a with
  | false => rfl
  | true =>
    have hlast : trimEnd p [a] = [] := by simp [trimEnd, hp]
    rw [trimEnd_append, if_pos hlast] at h
    have hle := length_trimEnd_le p first
    rw [h, List.length_append, List.length_singleton] at hle
    omega

theorem dropWhile_eq_self_iff {p : α → Bool} {l : List α} :
    l.dropWhile p = l ↔ ∀ a, l.head? = some a → p a = false := by
  cases l with
  | nil => simp
  | cons a l =>
    cases hp : p a with
    | false => simp [hp]
    | true =>
      have hle := (List.dropWhile_suffix (l := l) p).length_le
      have hne : l.dropWhile p ≠ a :: l := by
        intro h
        rw [h, List.length_cons] at hle
        omega
      simp [hp, hne]

theorem exists_trimEnd (p : α → Bool) (l : List α) :
    ∃ back, (∀ a ∈ back, p a = true) ∧ l = trimEnd p l ++ back := by
  induction l with
  | nil => exact ⟨[], by simp, rfl⟩
  | cons a l ih =>
    obtain ⟨back, hback, hl⟩ := ih
    rw [trimEnd]
    rcases htrim : trimEnd p l with _ | ⟨b, r⟩
    · rw [htrim, List.nil_append] at hl
      by_cases ha : p a = true
      · refine ⟨a :: back, ?_, by simp [ha, ← hl]⟩
        rw [List.forall_mem_cons]
        exact ⟨ha, hback⟩
      · exact ⟨back, hback, by simp [ha, ← hl]⟩
    · rw [htrim] at hl
      exact ⟨back, hback, by rw [hl]; rfl⟩

theorem exists_trimBoth (p : α → Bool) (l : List α) :
    ∃ front back, (∀ a ∈ front, p a = true) ∧ (∀ a ∈ back, p a = true) ∧
      l = front ++ (trimBoth p l ++ back) := by
  obtain ⟨back, hback, hdrop⟩ := exists_trimEnd p (l.dropWhile p)
  refine ⟨l.takeWhile p, back, fun a ha => ?_, hback, ?_⟩
  · exact List.all_eq_true.1 List.all_takeWhile a ha
  · rw [trimBoth, ← hdrop, List.takeWhile_append_dropWhile]

/-- What stands around a list and is to be trimmed makes no difference. -/
theorem trimBoth_around {p : α → Bool} {front back : List α} (hfront : ∀ a ∈ front, p a = true)
    (hback : ∀ a ∈ back, p a = true) (l : List α) :
    trimBoth p (front ++ (l ++ back)) = trimBoth p l := by
  have hend : trimEnd p back = [] := trimEnd_eq_nil.2 hback
  rw [trimBoth, List.dropWhile_append_of_pos hfront, List.dropWhile_append, trimBoth]
  by_cases h : l.dropWhile p = []
  · have hdrop : ∀ a ∈ back.dropWhile p, p a = true :=
      fun a ha => hback a ((List.dropWhile_suffix p).mem ha)
    rw [if_pos (by simp [h]), h, trimEnd_eq_nil.2 hdrop, trimEnd]
  · rw [if_neg (by simpa using h), trimEnd_append, if_pos hend]

theorem trimBoth_eq_nil {p : α → Bool} {l : List α} :
    trimBoth p l = [] ↔ ∀ a ∈ l, p a = true := by
  rw [trimBoth, trimEnd_eq_nil]
  constructor
  · intro h a ha
    rw [← List.takeWhile_append_dropWhile (p := p) (l := l)] at ha
    rcases List.mem_append.1 ha with hfront | hrest
    · exact List.all_eq_true.1 List.all_takeWhile a hfront
    · exact h a hrest
  · intro h a ha
    exact h a ((List.dropWhile_suffix _).mem ha)

theorem trimEnd_trimEnd (p : α → Bool) (l : List α) : trimEnd p (trimEnd p l) = trimEnd p l := by
  obtain ⟨back, hback, hl⟩ := exists_trimEnd p l
  have htrim := trimEnd_append (p := p) (trimEnd p l) back
  rw [if_pos (trimEnd_eq_nil.2 hback), ← hl] at htrim
  exact htrim.symm

theorem trimBoth_trimBoth (p : α → Bool) (l : List α) :
    trimBoth p (trimBoth p l) = trimBoth p l := by
  have hhead : (trimBoth p l).dropWhile p = trimBoth p l := by
    rw [dropWhile_eq_self_iff]
    intro a ha
    obtain ⟨back, _, hrest⟩ := exists_trimEnd p (l.dropWhile p)
    have hfirst : (l.dropWhile p).head? = some a := by
      rw [hrest, List.head?_append, ← trimBoth, ha, Option.some_or]
    have hnot := List.head?_dropWhile_not p l
    rw [hfirst] at hnot
    exact hnot
  show trimEnd p ((trimBoth p l).dropWhile p) = _
  rw [hhead, trimBoth, trimEnd_trimEnd]

/-- What neither begins nor ends with a value to be trimmed is left as it is, and nothing else
is. -/
theorem trimBoth_eq_self_iff {p : α → Bool} {l : List α} :
    trimBoth p l = l ↔
      (∀ a, l.head? = some a → p a = false) ∧ ∀ a, l.getLast? = some a → p a = false := by
  rw [← dropWhile_eq_self_iff, ← trimEnd_eq_self_iff, trimBoth]
  constructor
  · intro h
    have hle := length_trimEnd_le p (l.dropWhile p)
    rw [h] at hle
    have hdrop : l.dropWhile p = l := by
      have hsuffix := List.dropWhile_suffix (l := l) p
      exact hsuffix.eq_of_length (Nat.le_antisymm hsuffix.length_le hle)
    rw [hdrop] at h
    exact ⟨hdrop, h⟩
  · rintro ⟨hdrop, hend⟩
    rw [hdrop, hend]

/-- The trimmed list is the one that the rest stands around. -/
theorem trimBoth_eq_iff {p : α → Bool} {l core : List α} :
    trimBoth p l = core ↔ trimBoth p core = core ∧
      ∃ front back, (∀ a ∈ front, p a = true) ∧ (∀ a ∈ back, p a = true) ∧
        l = front ++ (core ++ back) := by
  constructor
  · rintro rfl
    exact ⟨trimBoth_trimBoth p l, exists_trimBoth p l⟩
  · rintro ⟨hcore, front, back, hfront, hback, rfl⟩
    rw [trimBoth_around hfront hback, hcore]

namespace Edged

variable {p : α → Bool} {q : β → Bool} {f : α → List β}

theorem dropWhile_flatMap (h : Edged p q f) (l : List α) :
    (l.flatMap f).dropWhile q = (l.dropWhile p).flatMap f := by
  induction l with
  | nil => rfl
  | cons a l ih =>
    rw [List.flatMap_cons]
    by_cases ha : p a = true
    · rw [List.dropWhile_append_of_pos (h.blank a ha), ih, List.dropWhile_cons_of_pos ha]
    · have ha : p a = false := by simpa using ha
      rcases hf : f a with _ | ⟨b, r⟩
      · exact absurd hf (h.ne_nil a)
      · have hb : q b = false := h.head a ha b (by rw [hf]; rfl)
        rw [List.dropWhile_cons_of_neg (by simpa using ha), List.flatMap_cons, hf,
          List.cons_append, List.dropWhile_cons_of_neg (by simpa using hb)]

theorem trimEnd_flatMap (h : Edged p q f) (l : List α) :
    trimEnd q (l.flatMap f) = (trimEnd p l).flatMap f := by
  induction l with
  | nil => rfl
  | cons a l ih =>
    rw [List.flatMap_cons, trimEnd_append, ih, trimEnd]
    rcases trimEnd p l with _ | ⟨b, r⟩
    · rw [List.flatMap_nil, if_pos rfl]
      by_cases ha : p a = true
      · simp only [if_pos ha, List.flatMap_nil]
        exact trimEnd_eq_nil.2 (h.blank a ha)
      · have ha : p a = false := by simpa using ha
        simp only [ha, Bool.false_eq_true, if_false, List.flatMap_singleton]
        exact trimEnd_eq_self (h.last a ha)
    · have hne : (b :: r).flatMap f ≠ [] := by simp [h.ne_nil b]
      rw [if_neg hne]
      rfl

theorem trimBoth_flatMap (h : Edged p q f) (l : List α) :
    trimBoth q (l.flatMap f) = (trimBoth p l).flatMap f := by
  rw [trimBoth, trimBoth, h.dropWhile_flatMap, h.trimEnd_flatMap]

end Edged

end Text

namespace Xml

/-! ### Text between tags -/

/-- The characters that are blank bytes when written. -/
def isBlankChar (c : Char) : Bool := c = ' ' || c = '\t' || c = '\r' || c = '\n'

/-- The text without blanks at its two ends. -/
def trimmed (s : String) : String := String.ofList (Text.trimBoth isBlankChar s.toList)

/-- A character is written as it is or as a reference, and no blank is written so. -/
theorem escapeChar_cases (c : Char) : escapeChar c = [c] ∨
    isBlankChar c = false ∧ ∃ name, escapeChar c = '&' :: (name ++ [';']) := by
  unfold escapeChar
  split
  · exact .inr ⟨rfl, ['a', 'm', 'p'], rfl⟩
  · exact .inr ⟨rfl, ['l', 't'], rfl⟩
  · exact .inr ⟨rfl, ['g', 't'], rfl⟩
  · exact .inr ⟨rfl, ['q', 'u', 'o', 't'], rfl⟩
  · exact .inr ⟨rfl, ['a', 'p', 'o', 's'], rfl⟩
  · exact .inl rfl

theorem edged_escapeChar : Text.Edged isBlankChar isBlankChar escapeChar := by
  constructor
  · intro c
    rcases escapeChar_cases c with h | ⟨_, name, h⟩ <;> simp [h]
  · intro c hc d hd
    rcases escapeChar_cases c with h | ⟨hblank, _⟩
    · rw [h, List.mem_singleton] at hd
      rw [hd]
      exact hc
    · rw [hc] at hblank
      cases hblank
  · intro c hc d hd
    rcases escapeChar_cases c with h | ⟨_, name, h⟩
    · rw [h, List.head?_cons, Option.some.injEq] at hd
      rw [← hd]
      exact hc
    · rw [h, List.head?_cons, Option.some.injEq] at hd
      rw [← hd]
      rfl
  · intro c hc d hd
    rcases escapeChar_cases c with h | ⟨_, name, h⟩
    · rw [h, List.getLast?_singleton, Option.some.injEq] at hd
      rw [← hd]
      exact hc
    · rw [h, ← List.cons_append, List.getLast?_concat, Option.some.injEq] at hd
      rw [← hd]
      rfl

theorem isXmlBlank_ofNat {c : Char} (h : c.toNat < 128) :
    Text.isXmlBlank (UInt8.ofNat c.toNat) = isBlankChar c := by
  have hascii : ∀ n < 128, Text.isXmlBlank (UInt8.ofNat n) = isBlankChar (Char.ofNat n) := by
    decide
  have hc := hascii c.toNat h
  rwa [Char.ofNat_toNat] at hc

theorem isBlankChar_of_le {c : Char} (h : 128 ≤ c.toNat) : isBlankChar c = false := by
  cases hblank : isBlankChar c with
  | false => rfl
  | true =>
    simp only [isBlankChar, Bool.or_eq_true, decide_eq_true_eq] at hblank
    rcases hblank with ((rfl | rfl) | rfl) | rfl <;> revert h <;> decide

theorem isXmlBlank_of_le {b : UInt8} (h : 128 ≤ b.toNat) : Text.isXmlBlank b = false := by
  cases hblank : Text.isXmlBlank b with
  | false => rfl
  | true =>
    simp only [Text.isXmlBlank, Bool.or_eq_true, decide_eq_true_eq] at hblank
    rcases hblank with ((rfl | rfl) | rfl) | rfl <;> revert h <;> decide

theorem edged_utf8EncodeChar :
    Text.Edged isBlankChar Text.isXmlBlank String.utf8EncodeChar := by
  constructor
  · exact fun c => String.utf8EncodeChar_ne_nil
  · intro c hc b hb
    by_cases hascii : c.toNat < 128
    · rw [utf8EncodeChar_of_ascii hascii, List.mem_singleton] at hb
      rw [hb, isXmlBlank_ofNat hascii, hc]
    · rw [isBlankChar_of_le (Nat.not_lt.1 hascii)] at hc
      cases hc
  · intro c hc b hb
    by_cases hascii : c.toNat < 128
    · rw [utf8EncodeChar_of_ascii hascii, List.head?_cons, Option.some.injEq] at hb
      rw [← hb, isXmlBlank_ofNat hascii, hc]
    · exact isXmlBlank_of_le (le_of_mem_utf8EncodeChar (Nat.not_lt.1 hascii)
        (List.mem_of_mem_head? hb))
  · intro c hc b hb
    by_cases hascii : c.toNat < 128
    · rw [utf8EncodeChar_of_ascii hascii, List.getLast?_singleton, Option.some.injEq] at hb
      rw [← hb, isXmlBlank_ofNat hascii, hc]
    · exact isXmlBlank_of_le (le_of_mem_utf8EncodeChar (Nat.not_lt.1 hascii)
        (List.mem_of_mem_getLast? hb))

/-- A text keeps its blanks unless it begins or ends with one. -/
theorem trimmed_eq_self_iff (s : String) :
    trimmed s = s ↔ (∀ c, s.toList.head? = some c → isBlankChar c = false) ∧
      ∀ c, s.toList.getLast? = some c → isBlankChar c = false := by
  rw [← Text.trimBoth_eq_self_iff, trimmed, ← String.toList_inj, String.toList_ofList]

/-- **Trimming and writing commute.** -/
theorem trimBoth_utf8_escape (s : String) :
    Text.trimBoth Text.isXmlBlank (utf8 (escape s)) = utf8 (escape (trimmed s)) := by
  simp only [escape, trimmed, utf8_ofList, String.toList_ofList,
    edged_utf8EncodeChar.trimBoth_flatMap, edged_escapeChar.trimBoth_flatMap]

end Xml

end ObjectStore
