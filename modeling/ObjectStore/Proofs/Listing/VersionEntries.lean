import ObjectStore.Proofs.Listing.PageItems
/-!
# The entries on a page of versions

The reader of a page remembers the entry and the owner in which it is, and whether it is in a
group of common prefixes; the names that it meets mean different things there.  Each part of a
page begins and ends with nothing remembered: an owner becomes that of the entry around it, and
an entry is added to the page (`foldlM_owner`, `foldlM_item`).  So no field goes to an entry but
its own, in whatever order the parts come, and whichever of them are missing.

**A page is read as what it shows** (`VersionsPage.read_versions_of_strewn`): texts without the
blanks at their ends, entity tags without their quotes, and markers only where there is more.
-/

namespace ObjectStore.Listing

open ObjectStore.Xml

/-! ### What a page shows -/

/-- An element of an entry.  The quotes around an entity tag are written as references or as they
are. -/
inductive EntryField where
  | key (text : String)
  | versionId (text : String)
  | isLatest (latest : Bool)
  | lastModified (text : String)
  | etag (tag : String) (plain : Bool)
  | size (bytes : UInt64)
  | storageClass (text : String)
  | owner (fields : List PersonField)

namespace EntryField

def element : EntryField → Element
  | key text => .text "Key" text
  | versionId text => .text "VersionId" text
  | isLatest latest => .text "IsLatest" (toString latest)
  | lastModified text => .text "LastModified" text
  | etag tag false => .text "ETag" ("\"" ++ tag ++ "\"")
  | etag tag true => .quoted "ETag" tag
  | size bytes => .text "Size" (toString bytes.toNat)
  | storageClass text => .text "StorageClass" text
  | owner fields => .node "Owner" (fields.map PersonField.element)

def key? : EntryField → Option String
  | key text => some (trimmed text)
  | _ => none

def versionId? : EntryField → Option String
  | versionId text => some (trimmed text)
  | _ => none

def isLatest? : EntryField → Option Bool
  | isLatest latest => some latest
  | _ => none

def lastModified? : EntryField → Option String
  | lastModified text => some (trimmed text)
  | _ => none

def etag? : EntryField → Option String
  | etag tag _ => some tag
  | _ => none

def size? : EntryField → Option UInt64
  | size bytes => some bytes
  | _ => none

def storageClass? : EntryField → Option String
  | storageClass text => some (trimmed text)
  | _ => none

def owner? : EntryField → Option Person
  | owner fields => some (({} : Person).showing fields)
  | _ => none

end EntryField

/-- The entry, but for what the fields say. -/
def ObjectVersion.showing (v : ObjectVersion) (fields : List EntryField) : ObjectVersion :=
  { isDeleteMarker := v.isDeleteMarker
    key := (lastOf EntryField.key? fields).getD v.key
    versionId := (lastOf EntryField.versionId? fields).getD v.versionId
    isLatest := (lastOf EntryField.isLatest? fields).getD v.isLatest
    lastModified := (lastOf EntryField.lastModified? fields).or v.lastModified
    etag := (lastOf EntryField.etag? fields).or v.etag
    size := (lastOf EntryField.size? fields).or v.size
    storageClass := (lastOf EntryField.storageClass? fields).or v.storageClass
    owner := (lastOf EntryField.owner? fields).or v.owner }

theorem ObjectVersion.showing_cons (v : ObjectVersion) (field : EntryField)
    (fields : List EntryField) :
    (v.showing [field]).showing fields = v.showing (field :: fields) := by
  simp only [showing, lastOf_cons, lastOf_nil, Option.none_or, Option.getD_or, Option.or_assoc]

/-- An element of a page: an entry, a group of common prefixes, the prefix that was asked for, or
what there is beyond the page. -/
inductive VersionsItem where
  | entry (isDeleteMarker : Bool) (fields : List EntryField)
  | commonPrefixes (prefixes : List String)
  | askedPrefix (text : String)
  | isTruncated (truncated : Bool)
  | nextKeyMarker (text : String)
  | nextVersionIdMarker (text : String)

namespace VersionsItem

def element : VersionsItem → Element
  | entry false fields => .node "Version" (fields.map EntryField.element)
  | entry true fields => .node "DeleteMarker" (fields.map EntryField.element)
  | commonPrefixes prefixes => .node "CommonPrefixes" (prefixes.map (Element.text "Prefix"))
  | askedPrefix text => .text "Prefix" text
  | isTruncated truncated => .text "IsTruncated" (toString truncated)
  | nextKeyMarker text => .text "NextKeyMarker" text
  | nextVersionIdMarker text => .text "NextVersionIdMarker" text

def version? : VersionsItem → Option ObjectVersion
  | entry isDeleteMarker fields => some (({ isDeleteMarker } : ObjectVersion).showing fields)
  | _ => none

def prefixes : VersionsItem → List String
  | commonPrefixes prefixes => prefixes.map trimmed
  | _ => []

def isTruncated? : VersionsItem → Option Bool
  | isTruncated truncated => some truncated
  | _ => none

/-- A marker of blanks alone is none. -/
def nextKeyMarker? : VersionsItem → Option (Option String)
  | nextKeyMarker text => some (nonEmpty (trimmed text))
  | _ => none

def nextVersionIdMarker? : VersionsItem → Option (Option String)
  | nextVersionIdMarker text => some (nonEmpty (trimmed text))
  | _ => none

/-- What a page with the items shows. -/
def page (items : List VersionsItem) : Chunk ObjectVersion :=
  let truncated := (lastOf isTruncated? items).getD false
  { items := items.filterMap version?
    commonPrefixes := items.flatMap prefixes
    truncated
    next :=
      if truncated then
        { primary := (lastOf nextKeyMarker? items).join
          secondary := (lastOf nextVersionIdMarker? items).join }
      else {} }

/-- What a page of versions shows is put together as on any page. -/
def view : PageView VersionsItem ObjectVersion :=
  { entry? := version?, prefixes, isTruncated?, primary? := nextKeyMarker?,
    secondary? := nextVersionIdMarker? }

end VersionsItem

namespace VersionsPage

/-- The names that the reader of a page of versions knows. -/
def known : List String :=
  ["Version", "DeleteMarker", "Owner", "CommonPrefixes", "ID", "DisplayName", "Key", "VersionId",
    "IsLatest", "LastModified", "ETag", "Size", "StorageClass", "Prefix", "IsTruncated",
    "NextKeyMarker", "NextVersionIdMarker"]

theorem passesOver_visit : PassesOver visit known := by
  refine .of_names (fun name h p => ?_) (fun name h p text => ?_)
  · unfold visit
    split <;> simp_all [known]
  · have howner : ∀ person, p.owner = some person → closeInOwner p person name text = p := by
      intro person hperson
      rw [closeInOwner, if_neg (by simp_all [known]), Person.close_of_ne (by simp_all [known])
        (by simp_all [known]), ← hperson]
    have hentry : ∀ v, closeInEntry p v name text = .ok p := by
      intro v
      unfold closeInEntry
      split <;> simp_all [known]
    have hpage : closeInPage p name text = p := by
      unfold closeInPage
      split <;> simp_all [known]
    simp only [visit]
    split
    · next hperson => rw [howner _ hperson]
    · exact hentry _
    · rw [hpage]

/-! ### Parts of a page -/

variable {p : Progress} {v : ObjectVersion}

/-- An owner becomes that of the entry around it, and nothing of it is remembered. -/
theorem foldlM_owner (howner : p.owner = none) (hcurrent : p.current = some v)
    (fields : List PersonField) :
    (EntryField.owner fields).element.nodes.foldlM visit p =
      .ok { p with current := some (v.showing [.owner fields]) } := by
  obtain ⟨chunk, current, owner, inCommonPrefixes⟩ := p
  cases howner
  cases hcurrent
  have hfields := foldlM_personFields visit
    (fun person => ⟨chunk, some v, some person, inCommonPrefixes⟩) (fun _ _ => rfl)
    (fun _ _ => rfl) {} fields
  exact Element.foldlM_node rfl hfields

theorem foldlM_entryField (howner : p.owner = none) (hcurrent : p.current = some v)
    (field : EntryField) :
    field.element.nodes.foldlM visit p =
      .ok { p with current := some (v.showing [field]) } := by
  have hclosed : ∀ name text, visit p (.closed name text) = closeInEntry p v name text := by
    intro name text
    simp only [visit, howner, hcurrent]
  cases field with
  | owner fields => exact foldlM_owner howner hcurrent fields
  | key text => rw [EntryField.element, Element.foldlM_text rfl, hclosed]; rfl
  | versionId text => rw [EntryField.element, Element.foldlM_text rfl, hclosed]; rfl
  | isLatest latest =>
    rw [EntryField.element, Element.foldlM_text rfl, hclosed, trimmed_toString_bool]
    simp only [closeInEntry, toString_eq_true]
    rfl
  | lastModified text => rw [EntryField.element, Element.foldlM_text rfl, hclosed]; rfl
  | etag tag plain =>
    -- either way the quotes are part of the text that is read
    have hread : (EntryField.etag tag plain).element.nodes.foldlM visit p =
        closeInEntry p v "ETag" ("\"" ++ tag ++ "\"") := by
      cases plain with
      | false => rw [EntryField.element, Element.foldlM_text rfl, hclosed, trimmed_quoted]
      | true => rw [EntryField.element, Element.foldlM_quoted rfl, hclosed]
    rw [hread]
    simp only [closeInEntry, unquoteTag_quoted]
    rfl
  | size bytes =>
    rw [EntryField.element, Element.foldlM_text rfl, hclosed, trimmed_toString]
    simp only [closeInEntry, readUInt64_toString]
    rfl
  | storageClass text => rw [EntryField.element, Element.foldlM_text rfl, hclosed]; rfl

theorem foldlM_entryFields (howner : p.owner = none) (hcurrent : p.current = some v)
    (fields : List EntryField) :
    (Element.nodesAll (fields.map EntryField.element)).foldlM visit p =
      .ok { p with current := some (v.showing fields) } := by
  obtain ⟨chunk, current, owner, inCommonPrefixes⟩ := p
  cases howner
  cases hcurrent
  exact Element.foldlM_map (fun v => (⟨chunk, some v, none, inCommonPrefixes⟩ : Progress))
    ObjectVersion.showing (fun _ => rfl) ObjectVersion.showing_cons
    (fun _ => foldlM_entryField rfl rfl) v fields

/-! ### The page -/

/-- The reader outside the groups of common prefixes, given those that have been shown. -/
def outside (c : Chunk ObjectVersion) (prefixes : List String) : Progress :=
  { chunk := { c with commonPrefixes := prefixes } }

def inPrefixes (c : Chunk ObjectVersion) (prefixes : List String) : Progress :=
  { outside c prefixes with inCommonPrefixes := true }

/-- Between the items of a page nothing is remembered but what has been shown. -/
theorem foldlM_item (c : Chunk ObjectVersion) (item : VersionsItem) :
    item.element.nodes.foldlM visit { chunk := c } =
      .ok { chunk := VersionsItem.view.shown c [item] } := by
  cases item with
  | entry isDeleteMarker fields =>
    let opened : Progress := { chunk := c, current := some { isDeleteMarker } }
    have hfields := foldlM_entryFields (p := opened) rfl rfl fields
    rw [PageView.shown_of_prefixes_eq_nil rfl]
    cases isDeleteMarker with
    | false => exact Element.foldlM_node rfl hfields
    | true => exact Element.foldlM_node rfl hfields
  | commonPrefixes l =>
    rw [PageView.shown_of_entry?_eq_none rfl]
    exact foldlM_commonPrefixes visit (outside c) (inPrefixes c) (fun _ => rfl) (fun _ _ => rfl)
      (fun _ => rfl) c.commonPrefixes l
  | askedPrefix text => rw [PageView.shown_of_prefixes_eq_nil rfl]; rfl
  | isTruncated truncated =>
    rw [VersionsItem.element, Element.foldlM_text rfl, trimmed_toString_bool,
      PageView.shown_of_prefixes_eq_nil rfl]
    simp only [visit, closeInPage, toString_eq_true]
    rfl
  | nextKeyMarker text => rw [PageView.shown_of_prefixes_eq_nil rfl]; rfl
  | nextVersionIdMarker text => rw [PageView.shown_of_prefixes_eq_nil rfl]; rfl

/-- **A page of versions is read as what it shows.** -/
theorem read_versions_of_strewn {items : List VersionsItem} {body : Bytes}
    (h : StrewnDocument known "ListVersionsResult" (items.map VersionsItem.element) body) :
    read body = .ok (VersionsItem.page items) := by
  have hpage : VersionsItem.page items = VersionsItem.view.page items := rfl
  have hread := readDocument_of_items h passesOver_visit (fun c => ({ chunk := c } : Progress))
    VersionsItem.view.shown PageView.shown_nil PageView.shown_cons foldlM_item (fun _ => rfl)
    (fun _ => rfl) {}
  rw [read, hread, hpage, ← PageView.settle_shown]
  rfl

/-- A page with unknown elements on three levels, and with an owner in front of the key. -/
def strangePage : String :=
  "<ListVersionsResult><Name>b</Name><IsTruncated>true</IsTruncated><Version><Owner>" ++
  "<Role>x<s:At-1/>y</Role><ID>u</ID></Owner><ETag>&quot;e&quot;</ETag><Key> a</Key></Version>\n" ++
  "<DeleteMarker><VersionId>2</VersionId></DeleteMarker><NextKeyMarker> </NextKeyMarker>" ++
  "</ListVersionsResult>"

theorem read_strangePage :
    StrewnDocument known "ListVersionsResult"
        ([.isTruncated true, .entry false [.owner [.id "u"], .etag "e" false, .key " a"],
          .entry true [.versionId "2"], .nextKeyMarker " "].map VersionsItem.element)
        (utf8 strangePage) ∧
      read (utf8 strangePage) = .ok
        { items := [{ key := "a", etag := some "e", owner := some { id := "u" } },
            { versionId := "2", isDeleteMarker := true }]
          truncated := true } := by
  have hrole : Strange known _ := .element "x" (.text "")
    (@Tagged.empty _ "s:At-1" [] (by decide) rfl areNames_nil) (by decide) (.text "y")
  have howner : Strewn known ([.id "u"].map PersonField.element) _ :=
    .stranger allBlank_nil hrole (tagged_of_isName (by decide) _) (by decide : "Role" ∉ known)
      (.text allBlank_nil (tagged_of_isName (by decide) _) (.done allBlank_nil))
  have hversion : Strewn known
      ([.owner [.id "u"], .etag "e" false, .key " a"].map EntryField.element) _ :=
    .node allBlank_nil howner (tagged_of_isName (by decide) _)
      (.text allBlank_nil (tagged_of_isName (by decide) _)
        (.text allBlank_nil (tagged_of_isName (by decide) _) (.done allBlank_nil)))
  have hmarker : Strewn known ([.versionId "2"].map EntryField.element) _ :=
    .text allBlank_nil (tagged_of_isName (by decide) _) (.done allBlank_nil)
  have hpage : StrewnDocument known "ListVersionsResult"
      ([.isTruncated true, .entry false [.owner [.id "u"], .etag "e" false, .key " a"],
        .entry true [.versionId "2"], .nextKeyMarker " "].map VersionsItem.element) _ :=
    .intro (.blank allBlank_nil)
      (.stranger allBlank_nil (.text "b") (tagged_of_isName (by decide) _)
        (by decide : "Name" ∉ known)
        (.text allBlank_nil (tagged_of_isName (by decide) _)
          (.node allBlank_nil hversion (tagged_of_isName (by decide) _)
            (.node (by decide : AllBlank [10]) hmarker (tagged_of_isName (by decide) _)
              (.text allBlank_nil (tagged_of_isName (by decide) _) (.done allBlank_nil))))))
      (tagged_of_isName (by decide) _) allBlank_nil
  have hbody := Eq.mp (congrArg (StrewnDocument known "ListVersionsResult" _)
    (by decide +kernel : _ = utf8 strangePage)) hpage
  exact ⟨hbody, (read_versions_of_strewn hbody).trans rfl⟩

end VersionsPage

end ObjectStore.Listing
