import Mathlib
import ObjectStore.Metadata
import ObjectStore.Proofs.Table
/-!
# Metadata in headers

Metadata becomes headers by one rule and is read off headers by another: a standard name keeps its
place, a name of the service's own does so too, any other name gets the service's beginning, and
only what has that beginning is read.  `Metadata.get?_toHeaders_of_own` says which entry a header
shows that does not have it.

**The user's entries come back** (`Metadata.survives_of_readable`): no two entries become one
header, and whoever finds the headers again, in any order and between others, finds the entries.
-/

namespace ObjectStore

/-! ### Case -/

theorem lowerCase_lowerCase (s : String) : lowerCase (lowerCase s) = lowerCase s := by
  rw [lowerCase, lowerCase, String.toList_ofList, List.map_map]
  refine congrArg String.ofList (List.map_congr_left fun c _ => ?_)
  exact Char.toLower_toLower_eq_toLower c

namespace Metadata

/-! ### Stored names -/

/-- Metadata that comes about by what can be done with it. -/
inductive Stored : Metadata → Prop where
  | empty : Stored .empty
  | insert {m : Metadata} (h : Stored m) (name value : String) : Stored (m.insert name value)
  | remove {m : Metadata} (h : Stored m) (name : String) : Stored (m.remove name)
  | forPart {m : Metadata} (h : Stored m) : Stored m.forPart

theorem Stored.foldl_insert {m : Metadata} (h : m.Stored) (l : List (String × String)) :
    Stored (l.foldl (fun m e => m.insert e.1 e.2) m) := by
  induction l generalizing m with
  | nil => exact h
  | cons e l ih => exact ih (h.insert e.1 e.2)

theorem stored_ofList (l : List (String × String)) : (ofList l).Stored :=
  Stored.empty.foldl_insert l

/-- Names are in lower case, whatever case they were given in. -/
theorem Stored.lowerCase_eq {m : Metadata} (h : m.Stored) :
    ∀ e ∈ m.entries.entries, lowerCase e.1 = e.1 := by
  induction h with
  | empty =>
    intro e he
    cases he
  | insert _ name value ih =>
    intro e he
    rcases Table.mem_put he with rfl | hold
    · exact lowerCase_lowerCase name
    · exact ih e hold
  | remove _ name ih =>
    intro e he
    exact ih e (List.mem_filter.1 he).1
  | forPart _ ih =>
    intro e he
    exact ih e (List.mem_filter.1 he).1

/-! ### Look-ups -/

theorem get?_insert (m : Metadata) (name value other : String) :
    (m.insert name value).get? other =
      if lowerCase other = lowerCase name then some value else m.get? other :=
  Table.get?_insert m.entries (lowerCase name) (lowerCase other) value

/-- A header that does not begin as the user's entries do shows the entry of its name, if that
entry keeps its name. -/
theorem get?_toHeaders_of_own {profile : ServiceProfile} {name : String}
    (h : Text.afterStart? profile.metadataStart name = none) (m : Metadata) :
    (m.toHeaders profile).get? name =
      if headerName profile name = name then m.entries.get? name else none := by
  have hname : ∀ other, headerName profile other = name →
      other = name := by
    intro other hother
    unfold headerName at hother
    split at hother
    · exact hother
    · rw [← hother, Text.afterStart?_append] at h
      cases h
  have hvalue : ∀ e : String × String, Table.valueFor name (headerName profile e.1, e.2) =
      if headerName profile name = name then Table.valueFor name e else none := by
    intro e
    unfold Table.valueFor
    by_cases heq : name = headerName profile e.1
    · obtain rfl := hname e.1 heq.symm
      rw [if_pos heq, if_pos heq.symm, if_pos rfl]
    · rw [if_neg heq]
      split
      · next hkept =>
        rw [if_neg]
        rintro rfl
        exact heq hkept.symm
      · rfl
  rw [toHeaders, Table.get?_ofList, lastOf_map]
  simp only [hvalue]
  split
  · exact Table.lastOf_entries m.entries name
  · exact lastOf_eq_none fun _ _ => rfl

/-! ### There and back -/

/-- The entries of the user's own. -/
def userEntries (m : Metadata) : Metadata := ⟨m.entries.filter fun name _ => !isStandard name⟩

/-- Metadata loses nothing on its way into headers and, but for the standard names, nothing on its
way back. -/
structure Survives (profile : ServiceProfile) (m : Metadata) : Prop where
  /-- Different entries become headers of different names, -/
  distinct : (m.entries.names.map (headerName profile)).Nodup
  /-- each entry is a header with its value, -/
  complete : (m.toHeaders profile).entries.Perm
    (m.entries.entries.map fun e => (headerName profile e.1, e.2))
  /-- and the user's entries are read off these headers again, whatever stands between them. -/
  recovered : ∀ headers others : List (String × String),
    headers.Perm ((m.toHeaders profile).entries ++ others) →
    (∀ h ∈ others, Text.afterStart? profile.metadataStart h.1 = none) →
    ofHeaders profile headers = m.userEntries

/-- Entries without a name of the service's own, whose values can be read. -/
structure Readable (m : Metadata) : Prop where
  names : ∀ e ∈ m.entries.entries, Text.afterStart? "x-amz-" e.1 = none
  values : ∀ e ∈ m.entries.entries, Http.isReadable e.2 = true

theorem headerName_of_foreign {name : String} (h : Text.afterStart? "x-amz-" name = none) :
    headerName .amazonS3 name = if isStandard name then name else "x-amz-meta-" ++ name := by
  unfold headerName
  rw [show ServiceProfile.amazonS3.headerStart = "x-amz-" from rfl, h, Option.isSome_none,
    Bool.or_false]
  rfl

theorem afterStart?_of_isStandard {name : String} (h : isStandard name = true) :
    Text.afterStart? "x-amz-meta-" name = none := by
  have hall : ∀ name ∈ standardNames, Text.afterStart? "x-amz-meta-" name = none := by decide
  exact hall name (List.contains_iff_mem.1 h)

/-- Whether a header is the user's, and its entry, can be read off its name. -/
theorem afterStart?_headerName {name : String} (h : Text.afterStart? "x-amz-" name = none) :
    Text.afterStart? "x-amz-meta-" (headerName .amazonS3 name) =
      if isStandard name then none else some name := by
  rw [headerName_of_foreign h]
  split
  · next hstandard => exact afterStart?_of_isStandard hstandard
  · exact Text.afterStart?_append "x-amz-meta-" name

theorem headerName_injective {name other : String} (h : Text.afterStart? "x-amz-" name = none)
    (h' : Text.afterStart? "x-amz-" other = none)
    (heq : headerName .amazonS3 name = headerName .amazonS3 other) : name = other := by
  have hread := afterStart?_headerName h
  rw [heq, afterStart?_headerName h'] at hread
  by_cases hname : isStandard name = true
  · by_cases hother : isStandard other = true
    · rwa [headerName_of_foreign h, headerName_of_foreign h', if_pos hname, if_pos hother] at heq
    · rw [if_pos hname, if_neg hother] at hread
      cases hread
  · by_cases hother : isStandard other = true
    · rw [if_neg hname, if_pos hother] at hread
      cases hread
    · rw [if_neg hname, if_neg hother] at hread
      exact (Option.some.inj hread).symm

/-- An entry of the user's own is read off its header, a standard one is not. -/
theorem ofHeader?_headerName {e : String × String} (h : Text.afterStart? "x-amz-" e.1 = none)
    (hvalue : Http.isReadable e.2 = true) :
    ofHeader? .amazonS3 (headerName .amazonS3 e.1, e.2) =
      Option.guard (fun e => !isStandard e.1) e := by
  rw [ofHeader?, show ServiceProfile.amazonS3.metadataStart = "x-amz-meta-" from rfl,
    afterStart?_headerName h, Option.guard]
  by_cases hname : isStandard e.1 = true
  · rw [if_pos hname, hname]
    rfl
  · rw [if_neg hname, Bool.eq_false_iff.2 hname]
    exact if_pos hvalue

/-- Entries with names in lower case are stored as they are. -/
theorem ofList_eq {l : List (String × String)} (h : ∀ e ∈ l, lowerCase e.1 = e.1) :
    ofList l = ⟨Table.ofList l⟩ := by
  have hstored : ∀ t : Table String,
      l.foldl (fun m e => m.insert e.1 e.2) (⟨t⟩ : Metadata) = ⟨t.insertAll l⟩ := by
    induction l with
    | nil =>
      intro t
      rfl
    | cons e l ih =>
      intro t
      have hrest := ih fun e he => h e (List.mem_cons_of_mem _ he)
      rw [List.foldl_cons, insert, h e List.mem_cons_self, hrest]
      rfl
  exact hstored Table.empty

theorem nodup_headerNames {m : Metadata} (h : m.Readable) :
    (m.entries.names.map (headerName .amazonS3)).Nodup := by
  refine m.entries.nodup_names.map_on ?_
  intro name hname other hother heq
  obtain ⟨e, he, rfl⟩ := List.mem_map.1 hname
  obtain ⟨e', he', rfl⟩ := List.mem_map.1 hother
  exact headerName_injective (h.names e he) (h.names e' he') heq

theorem perm_toHeaders {m : Metadata} (h : m.Readable) :
    (m.toHeaders .amazonS3).entries.Perm
      (m.entries.entries.map fun e => (headerName .amazonS3 e.1, e.2)) := by
  refine Table.perm_ofList ?_
  have hnames := nodup_headerNames h
  rw [Table.names, List.map_map] at hnames
  rwa [List.map_map]

/-- What is read off the headers, in any order. -/
theorem perm_filterMap_ofHeader? {m : Metadata} (h : m.Readable)
    {headers others : List (String × String)}
    (hheaders : headers.Perm ((m.toHeaders .amazonS3).entries ++ others))
    (hothers : ∀ h ∈ others, Text.afterStart? "x-amz-meta-" h.1 = none) :
    (headers.filterMap (ofHeader? .amazonS3)).Perm m.userEntries.entries.entries := by
  have hnone : others.filterMap (ofHeader? .amazonS3) = [] := by
    refine List.filterMap_eq_nil_iff.2 fun h hh => ?_
    rw [ofHeader?, show ServiceProfile.amazonS3.metadataStart = "x-amz-meta-" from rfl,
      hothers h hh]
  have huser : (m.entries.entries.map fun e => (headerName .amazonS3 e.1, e.2)).filterMap
      (ofHeader? .amazonS3) = m.userEntries.entries.entries := by
    have hguard := List.filterMap_congr fun e he =>
      ofHeader?_headerName (h.names e he) (h.values e he)
    rw [List.filterMap_map, Function.comp_def, hguard, List.filterMap_eq_filter]
    rfl
  have hperm := (hheaders.trans ((perm_toHeaders h).append_right others)).filterMap
    (ofHeader? .amazonS3)
  rwa [List.filterMap_append, hnone, List.append_nil, huser] at hperm

/-- **The user's entries come back.** -/
theorem survives_of_readable {m : Metadata} (hstored : m.Stored) (h : m.Readable) :
    m.Survives .amazonS3 := by
  refine ⟨nodup_headerNames h, perm_toHeaders h, ?_⟩
  intro headers others hheaders hothers
  have hperm := perm_filterMap_ofHeader? h hheaders hothers
  have hlower : ∀ e ∈ headers.filterMap (ofHeader? .amazonS3), lowerCase e.1 = e.1 := by
    intro e he
    exact hstored.lowerCase_eq e (List.mem_filter.1 (hperm.subset he)).1
  have hnodup : ((headers.filterMap (ofHeader? .amazonS3)).map Prod.fst).Nodup :=
    (hperm.map Prod.fst).nodup_iff.2 m.userEntries.entries.nodup_names
  rw [ofHeaders, ofList_eq hlower,
    Table.eq_of_perm ((Table.perm_ofList hnodup).trans hperm)]

/-- Metadata with a standard name, an empty name, and a name that looks like the beginning of a
header. -/
def oddMetadata : Metadata :=
  .ofList [("Content-Type", "text/plain"), ("Project", "\tapollo "), ("", "nameless"),
    ("amz-meta-x", "~")]

/-- The headers are in another order, and between them stand others, one of which is the beginning
of the user's headers but for its last character. -/
theorem survives_oddMetadata :
    oddMetadata.Stored ∧ oddMetadata.Readable ∧ oddMetadata.Survives .amazonS3 ∧
      (ofHeaders .amazonS3 [("x-amz-meta-project", "\tapollo "), ("x-amz-meta", "11"),
        ("content-type", "text/plain"), ("x-amz-meta-amz-meta-x", "~"), ("etag", "x-amz-meta-"),
        ("x-amz-meta-", "nameless")]).entries.entries =
        [("", "nameless"), ("amz-meta-x", "~"), ("project", "\tapollo ")] := by
  have hstored : oddMetadata.Stored := stored_ofList _
  have hreadable : oddMetadata.Readable := ⟨by decide +kernel, by decide +kernel⟩
  have hsurvives := survives_of_readable hstored hreadable
  refine ⟨hstored, hreadable, hsurvives, ?_⟩
  rw [hsurvives.recovered _ [("x-amz-meta", "11"), ("etag", "x-amz-meta-")] (by decide +kernel)
    (by decide +kernel)]
  decide +kernel

end Metadata

end ObjectStore
