import ObjectStore.Command.Path
import ObjectStore.Proofs.Xml.Trim
/-!
# What a path names

The path of an object is one of the two beginnings, the bucket, a slash and the key, with any
blanks around it.  A bucket has no slash, so the first one behind the beginning ends it; the key
may contain anything, what looks like another path included.

**A path is read as the object that is written in it** (`ObjectPath.reads_written`), and nothing
else is read at all.  Blanks at the end of a key cannot be told from blanks around the path: they
are dropped, and a key of blanks alone is none.
-/

namespace ObjectStore

namespace Text

/-- The text without the blanks at its end. -/
def withoutEnd (s : String) : String := String.ofList (trimEnd isBlank s.toList)

theorem trim_eq_iff {s core : String} :
    trim s = core ↔ trim core = core ∧
      ∃ front back : String, (∀ c ∈ front.toList, isBlank c = true) ∧
        (∀ c ∈ back.toList, isBlank c = true) ∧ s = front ++ (core ++ back) := by
  have hlist : ∀ t : String, trim t = core ↔ trimBoth isBlank t.toList = core.toList := by
    intro t
    rw [trim, ← String.toList_inj, String.toList_ofList]
  rw [hlist, hlist, trimBoth_eq_iff]
  refine and_congr_right fun _ => ?_
  constructor
  · rintro ⟨front, back, hfront, hback, hs⟩
    refine ⟨String.ofList front, String.ofList back, by simpa using hfront, by simpa using hback,
      String.toList_inj.1 ?_⟩
    simpa using hs
  · rintro ⟨front, back, hfront, hback, rfl⟩
    exact ⟨front.toList, back.toList, hfront, hback, by simp⟩

theorem withoutEnd_eq_self_iff {s : String} :
    withoutEnd s = s ↔ ∀ c, s.toList.getLast? = some c → isBlank c = false := by
  rw [withoutEnd, ← String.toList_inj, String.toList_ofList, trimEnd_eq_self_iff]

/-- Behind a text with no blank at either end, only the end is trimmed. -/
theorem trim_append {first : String} {c d : Char} (hhead : first.toList.head? = some c)
    (hc : isBlank c = false) (hlast : first.toList.getLast? = some d) (hd : isBlank d = false)
    (s : String) : trim (first ++ s) = first ++ withoutEnd s := by
  have hdrop : (first.toList ++ s.toList).dropWhile isBlank = first.toList ++ s.toList := by
    rw [dropWhile_eq_self_iff, List.head?_append, hhead]
    rintro a ha
    cases ha
    exact hc
  have hfirst : trimEnd isBlank first.toList = first.toList := by
    apply trimEnd_eq_self
    rw [hlast]
    rintro a ha
    cases ha
    exact hd
  rw [trim, String.toList_append, trimBoth, hdrop, trimEnd_append, hfirst, withoutEnd,
    ← String.toList_inj]
  split
  · next h => simp [h]
  · simp

end Text

namespace ObjectPath

/-- A bucket that can stand in a path. -/
structure IsBucket (bucket : String) : Prop where
  ne_empty : bucket ≠ ""
  slash : '/' ∉ bucket.toList

instance (bucket : String) : Decidable (IsBucket bucket) :=
  decidable_of_iff (bucket ≠ "" ∧ '/' ∉ bucket.toList) ⟨fun h => ⟨h.1, h.2⟩, fun h => ⟨h.1, h.2⟩⟩

/-- The path of an object that begins in the given way. -/
def written (start bucket key : String) : String := start ++ bucket ++ "/" ++ key

/-- The text is a path of the object, with any blanks around it.  The key ends in no blank, so
that it is clear where it ends. -/
structure Names (text bucket key : String) : Prop where
  isBucket : IsBucket bucket
  key_ne_empty : key ≠ ""
  keyEnd : ∀ c, key.toList.getLast? = some c → Text.isBlank c = false
  form : ∃ start ∈ starts, ∃ front back : String, (∀ c ∈ front.toList, Text.isBlank c = true) ∧
    (∀ c ∈ back.toList, Text.isBlank c = true) ∧ text = front ++ (written start bucket key ++ back)

/-! ### The beginning -/

/-- No text begins in both ways, so it does not matter which is tried first. -/
theorem afterStart?_eq_some_iff {text rest : String} :
    afterStart? text = some rest ↔ ∃ start ∈ starts, text = start ++ rest := by
  have hor : afterStart? text =
      (Text.afterStart? "s3://" text).or (Text.afterStart? "s3/" text) := by
    rw [afterStart?, starts, List.findSome?_cons, List.findSome?_cons, List.findSome?_nil]
    cases Text.afterStart? "s3://" text with
    | some rest => rfl
    | none =>
      cases Text.afterStart? "s3/" text with
      | some rest => rfl
      | none => rfl
  have hnone : text = "s3/" ++ rest → Text.afterStart? "s3://" text = none := by
    rintro rfl
    rw [Option.eq_none_iff_forall_ne_some]
    intro rest' h
    have hlist := congrArg String.toList (Text.afterStart?_eq_some_iff.1 h)
    simp at hlist
  rw [hor, Option.or_eq_some_iff, Text.afterStart?_eq_some_iff, Text.afterStart?_eq_some_iff]
  constructor
  · rintro (h | ⟨-, h⟩)
    · exact ⟨"s3://", by decide, h⟩
    · exact ⟨"s3/", by decide, h⟩
  · rintro ⟨start, hstart, h⟩
    simp only [starts, List.mem_cons, List.not_mem_nil, or_false] at hstart
    rcases hstart with rfl | rfl
    · exact .inl h
    · exact .inr ⟨hnone h, h⟩

/-! ### Reading -/

/-- What is read is what is left of the text without blanks and without its beginning, cut at the
first slash. -/
theorem read_eq_ok_iff {text : String} {p : ObjectPath} :
    read text = .ok p ↔ ∃ start ∈ starts, ∃ rest, Text.trim text = start ++ rest ∧
      (Text.cutText '/' rest).1 ≠ "" ∧
      p = { bucket := (Text.cutText '/' rest).1
            key := (Text.cutText '/' rest).2.filter fun k => !k.isEmpty } := by
  rcases hafter : afterStart? (Text.trim text) with _ | rest
  · have hnone : ∀ start ∈ starts, ∀ rest, Text.trim text ≠ start ++ rest := by
      intro start hstart rest h
      rw [afterStart?_eq_some_iff.2 ⟨start, hstart, h⟩] at hafter
      cases hafter
    rw [read, hafter]
    constructor
    · intro h
      cases h
    · rintro ⟨start, hstart, rest, h, -⟩
      exact absurd h (hnone start hstart rest)
  · have hread : read text = if (Text.cutText '/' rest).1.isEmpty then .error .noBucket
        else .ok { bucket := (Text.cutText '/' rest).1
                   key := (Text.cutText '/' rest).2.filter fun k => !k.isEmpty } := by
      rw [read, hafter]
    obtain ⟨start, hstart, htrim⟩ := afterStart?_eq_some_iff.1 hafter
    rw [hread]
    constructor
    · intro h
      split at h
      · cases h
      · next hne =>
        cases h
        exact ⟨start, hstart, rest, htrim, by simpa using hne, rfl⟩
    · rintro ⟨start', hstart', rest', htrim', hne, rfl⟩
      -- the beginning is determined by the text, and with it what stands behind it
      have hsame : some rest' = some rest := by
        rw [← hafter, afterStart?_eq_some_iff.2 ⟨start', hstart', htrim'⟩]
      cases hsame
      rw [if_neg (by simpa using hne)]

theorem readObject_of_read {text : String} {p : ObjectPath} (h : read text = .ok p) :
    readObject text = match p.key with
      | some key => .ok (p.bucket, key)
      | none => .error (.noKey text) := by
  rw [readObject, h]
  show (match p.key with
    | some key => pure (p.bucket, key)
    | none => throw (.noKey text) : Except PathFault (String × String)) = _
  cases p.key with
  | none => rfl
  | some key => rfl

/-- A path without blanks around it: the key is all that follows the bucket, if that is not
nothing. -/
theorem readObject_of_trim {text start bucket key : String} (hstart : start ∈ starts)
    (hbucket : IsBucket bucket) (h : Text.trim text = written start bucket key) :
    readObject text = if key = "" then .error (.noKey text) else .ok (bucket, key) := by
  have hcut : Text.cutText '/' (bucket ++ "/" ++ key) = (bucket, some key) :=
    Text.cutText_append_sep hbucket.slash (by simp)
  have htrim : Text.trim text = start ++ (bucket ++ "/" ++ key) := by
    rw [h, written, String.append_assoc, String.append_assoc, String.append_assoc]
  have hread := read_eq_ok_iff.2 ⟨start, hstart, _, htrim, by rw [hcut]; exact hbucket.ne_empty, rfl⟩
  rw [readObject_of_read hread, hcut]
  by_cases hkey : key = ""
  · rw [if_pos hkey, hkey]
    rfl
  · rw [if_neg hkey, Option.filter_some, if_pos (by simpa using hkey)]

theorem readObject_eq_ok_iff {text bucket key : String} :
    readObject text = .ok (bucket, key) ↔ IsBucket bucket ∧ key ≠ "" ∧
      ∃ start ∈ starts, Text.trim text = written start bucket key := by
  constructor
  · intro h
    rcases hread : read text with fault | p
    · rw [readObject, hread] at h
      cases h
    obtain ⟨start, hstart, rest, htrim, hne, rfl⟩ := read_eq_ok_iff.1 hread
    rw [readObject_of_read hread] at h
    rcases hkey : (Text.cutText '/' rest).2.filter fun k => !k.isEmpty with _ | key'
    · rw [hkey] at h
      cases h
    · rw [hkey] at h
      cases h
      obtain ⟨hcut, hnonempty⟩ := Option.filter_eq_some_iff.1 hkey
      have hrest := Text.append_of_cutText (Prod.ext rfl hcut)
      refine ⟨⟨hne, Text.notMem_fst_cutText '/' rest⟩, by simpa using hnonempty, start, hstart, ?_⟩
      rw [htrim, written, ← String.toList_inj]
      simp [hrest]
  · rintro ⟨hbucket, hkey, start, hstart, htrim⟩
    rw [readObject_of_trim hstart hbucket htrim, if_neg hkey]

/-! ### Blanks around a path -/

theorem trim_written {start bucket key : String} (hstart : start ∈ starts) :
    Text.trim (written start bucket key) = written start bucket (Text.withoutEnd key) := by
  have hfirst : (start ++ bucket ++ "/").toList.head? = some 's' := by
    simp only [starts, List.mem_cons, List.not_mem_nil, or_false] at hstart
    rcases hstart with rfl | rfl <;> simp
  exact Text.trim_append hfirst (by decide) (by simp : _ = some '/') (by decide) key

theorem written_inj {start bucket key key' : String} :
    written start bucket key = written start bucket key' ↔ key = key' := by
  rw [written, written, String.append_right_inj]

theorem trim_eq_written_iff {text start bucket key : String} (hstart : start ∈ starts) :
    Text.trim text = written start bucket key ↔
      (∀ c, key.toList.getLast? = some c → Text.isBlank c = false) ∧
        ∃ front back : String, (∀ c ∈ front.toList, Text.isBlank c = true) ∧
          (∀ c ∈ back.toList, Text.isBlank c = true) ∧
          text = front ++ (written start bucket key ++ back) := by
  rw [Text.trim_eq_iff, trim_written hstart, written_inj, Text.withoutEnd_eq_self_iff]

theorem readObject_iff_names {text bucket key : String} :
    readObject text = .ok (bucket, key) ↔ Names text bucket key := by
  rw [readObject_eq_ok_iff]
  constructor
  · rintro ⟨hbucket, hkey, start, hstart, htrim⟩
    obtain ⟨hend, hform⟩ := (trim_eq_written_iff hstart).1 htrim
    exact ⟨hbucket, hkey, hend, start, hstart, hform⟩
  · rintro ⟨hbucket, hkey, hend, start, hstart, hform⟩
    exact ⟨hbucket, hkey, start, hstart, (trim_eq_written_iff hstart).2 ⟨hend, hform⟩⟩

/-! ### What a path names -/

/-- **A path is read as the object that is written in it:** a text is read if it is a path, and as
the only object that it is a path of.  Of a key that is written with blanks at its end these are
not read, and without them something has to be left. -/
theorem reads_written (text bucket key : String) :
    (readObject text = .ok (bucket, key) ↔ Names text bucket key) ∧
      (∀ bucket' key', Names text bucket key → Names text bucket' key' →
        bucket' = bucket ∧ key' = key) ∧
      (IsBucket bucket → ∀ start ∈ starts, readObject (written start bucket key) =
        if Text.withoutEnd key = "" then .error (.noKey (written start bucket key))
        else .ok (bucket, Text.withoutEnd key)) := by
  refine ⟨readObject_iff_names, ?_, ?_⟩
  · intro bucket' key' h h'
    have hread := readObject_iff_names.2 h
    rw [readObject_iff_names.2 h'] at hread
    cases hread
    exact ⟨rfl, rfl⟩
  · intro hbucket start hstart
    exact readObject_of_trim hstart hbucket (trim_written hstart)

/-- The key begins with a blank and looks like a path, and so does the bucket. -/
theorem reads_written_imitation :
    Names "\ns3/s3: / s3://b//k\t" "s3: " " s3://b//k" ∧
      readObject "\ns3/s3: / s3://b//k\t" = .ok ("s3: ", " s3://b//k") ∧
      readObject (written "s3://" "s3: " " s3://b//k\t") = .ok ("s3: ", " s3://b//k") := by
  have hnames : Names "\ns3/s3: / s3://b//k\t" "s3: " " s3://b//k" :=
    { isBucket := by decide
      key_ne_empty := by decide
      keyEnd := Text.withoutEnd_eq_self_iff.1 (by decide)
      form := ⟨"s3/", by decide, "\n", "\t", List.forall_mem_singleton.2 (by decide),
        List.forall_mem_singleton.2 (by decide), by decide⟩ }
  have hwritten := (reads_written "" "s3: " " s3://b//k\t").2.2 (by decide) "s3://" (by decide)
  exact ⟨hnames, (reads_written _ _ _).1.2 hnames, hwritten.trans rfl⟩

/-- A blank at the end of a key is lost, and a key of blanks is none. -/
theorem readObject_loses_blank :
    IsBucket "b" ∧ readObject (written "s3://" "b" "k ") = .ok ("b", "k") ∧
      readObject (written "s3/" "b" "k ") = .ok ("b", "k") ∧
      readObject (written "s3://" "b" " ") = .error (.noKey "s3://b/ ") :=
  ⟨by decide, rfl, rfl, rfl⟩

end ObjectPath

end ObjectStore
