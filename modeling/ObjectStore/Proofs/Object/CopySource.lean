import ObjectStore.Client.Objects
import ObjectStore.Proofs.Percent
/-!
# The source of a copy

A header names the object that is copied: bucket and key with their slashes, and behind a question
mark the version, if there is one.  Both parts are percent-encoded and no question mark is literal,
so the first one in the value is the separator, whatever the key looks like.  The first slash of the
decoded name is the one behind the bucket, since a bucket has none.

**A receiver that takes the value apart gets the source back** (`SourceName.read?_copySource`), and
so no two sources have the same value (`SourceName.names_copySource`).
-/

namespace ObjectStore

/-- The object of a copy, or one version of it. -/
structure SourceName where
  bucket : String
  key : String
  versionId : Option String

namespace SourceName

def copySource (s : SourceName) : String := Client.copySource s.bucket s.key s.versionId

/-- The version that stands behind the question mark. -/
def readVersion? (text : String) : Option String :=
  (Text.afterStart? "versionId=" text).bind Percent.decode?

/-- What a receiver makes of a value. -/
def read? (value : String) : Option SourceName := do
  let (name, version) := Text.cutText '?' value
  let (bucket, key) := Text.cutText '/' (← Percent.decode? name)
  match version with
  | none => return { bucket, key := ← key, versionId := none }
  | some text => return { bucket, key := ← key, versionId := some (← readVersion? text) }

/-! ### The parts of a value -/

variable {s : SourceName}

theorem copySource_eq (s : SourceName) :
    s.copySource = Percent.encode .kept (s.bucket ++ "/" ++ s.key) ++
      ((s.versionId.map fun v => "?versionId=" ++ Percent.encode .encoded v).getD "") := by
  obtain ⟨bucket, key, versionId⟩ := s
  cases versionId with
  | none => exact (Percent.encodeKey_eq _).trans String.append_empty.symm
  | some v =>
    show Percent.append (Percent.encodeKey (bucket ++ "/" ++ key) ++ "?versionId=") v = _
    rw [Percent.append_eq, Percent.encodeKey_eq, String.append_assoc]
    rfl

theorem mark_notMem_encode (text : String) : '?' ∉ (Percent.encode .kept text).toList :=
  Percent.notMem_encode (by decide) text

theorem cutText_copySource (s : SourceName) :
    Text.cutText '?' s.copySource =
      (Percent.encode .kept (s.bucket ++ "/" ++ s.key),
        s.versionId.map fun v => "versionId=" ++ Percent.encode .encoded v) := by
  have hname := mark_notMem_encode (s.bucket ++ "/" ++ s.key)
  rw [copySource_eq]
  -- no question mark is left in the encoded name, so that a literal one is the first
  cases s.versionId with
  | none => exact (congrArg _ String.append_empty).trans (Text.cutText_of_notMem hname)
  | some v => exact Text.cutText_append_sep hname (by simp)

theorem cutText_name {bucket : String} (h : '/' ∉ bucket.toList) (key : String) :
    Text.cutText '/' (bucket ++ "/" ++ key) = (bucket, some key) :=
  Text.cutText_append_sep h (by simp)

theorem readVersion?_encode (v : String) :
    readVersion? ("versionId=" ++ Percent.encode .encoded v) = some v := by
  have hstart : Text.afterStart? "versionId=" ("versionId=" ++ Percent.encode .encoded v) =
      some (Percent.encode .encoded v) := by
    rw [Text.afterStart?, String.toList_append, Text.isPrefixOf?_eq_some_iff.2 rfl,
      Option.map_some, String.ofList_toList]
  rw [readVersion?, hstart, Option.bind_some, Percent.decode?_encode]

theorem read?_copySource (h : '/' ∉ s.bucket.toList) : read? s.copySource = some s := by
  rw [read?, cutText_copySource]
  simp only [Percent.decode?_encode, Option.bind_eq_bind, Option.bind_some, cutText_name h]
  obtain ⟨bucket, key, versionId⟩ := s
  cases versionId with
  | none => rfl
  | some v =>
    simp only [Option.map_some, readVersion?_encode]
    rfl

/-! ### The value -/

/-- The value names the source and no other. -/
structure Names (s : SourceName) (value : String) : Prop where
  marked : '?' ∈ value.toList ↔ s.versionId.isSome = true
  name : Percent.decode? (Text.cutText '?' value).1 = some (s.bucket ++ "/" ++ s.key)
  version : (Text.cutText '?' value).2 =
    s.versionId.map fun v => "versionId=" ++ Percent.encode .encoded v
  read : read? value = some s
  only : ∀ t : SourceName, '/' ∉ t.bucket.toList → t.copySource = value → t = s

theorem mark_mem_copySource_iff (s : SourceName) :
    '?' ∈ s.copySource.toList ↔ s.versionId.isSome = true := by
  have hname := mark_notMem_encode (s.bucket ++ "/" ++ s.key)
  rw [copySource_eq, String.toList_append]
  cases s.versionId with
  | none => simp [hname]
  | some v => simp

/-- **Each source has a value of its own**, and the value can be read, whatever the key and the
version contain. -/
theorem names_copySource (s : SourceName) (h : '/' ∉ s.bucket.toList) :
    s.Names s.copySource := by
  have hread := read?_copySource h
  constructor
  · exact mark_mem_copySource_iff s
  · rw [cutText_copySource]
    exact Percent.decode?_encode .kept _
  · rw [cutText_copySource]
  · exact hread
  · intro t ht heq
    have hother := read?_copySource ht
    rw [heq, hread] at hother
    exact (Option.some.inj hother).symm

/-- With a slash in it, a bucket cannot be told from the beginning of a key. -/
example : copySource ⟨"a/b", "c", none⟩ = copySource ⟨"a", "b/c", none⟩ := by decide +kernel

/-- The key looks like one with a version, and the version has all that separates in it. -/
theorem names_copySource_of_imitation :
    ∃ s : SourceName, s.key = "k?versionId=%31/é" ∧ s.versionId = some "v?/&=%" ∧
      '/' ∉ s.bucket.toList ∧
      s.copySource = "b/k%3FversionId%3D%2531/%C3%A9?versionId=v%3F%2F%26%3D%25" ∧
      s.Names s.copySource :=
  ⟨⟨"b", "k?versionId=%31/é", some "v?/&=%"⟩, rfl, rfl, by decide, by decide +kernel,
    names_copySource _ (by decide)⟩

end SourceName

end ObjectStore
