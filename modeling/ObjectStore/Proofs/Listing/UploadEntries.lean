import ObjectStore.Listing.Uploads
import ObjectStore.Proofs.Listing.PageItems
/-!
# The entries on a page of uploads

An upload names two persons, its initiator and its owner, whose elements have the same names in
them.  The reader keeps one person at a time together with the role in which it stands.  A person
begins with nothing known of it, and when its element ends it goes to the upload around it in its
own role (`foldlM_person`); an upload begins empty and is added to the page when it ends
(`foldlM_item`).  So nobody is taken for somebody else, in whatever order the parts come.

The bucket stands on the page once, and every upload is given it when the page has been read,
whether the element came before the upload or behind it.

**A page is read as what it shows** (`UploadsPage.read_uploads_of_strewn`).
-/

namespace ObjectStore

open Listing Xml

/-! ### What a page shows -/

namespace Listing

namespace UploadsPage

/-- The name of the element of a person in the role. -/
def Role.elementName : Role → String
  | .initiator => "Initiator"
  | .owner => "Owner"

end UploadsPage

/-- An element of an upload. -/
inductive UploadField where
  | key (text : String)
  | uploadId (text : String)
  | storageClass (text : String)
  | initiated (text : String)
  | person (role : UploadsPage.Role) (fields : List PersonField)

namespace UploadField

def element : UploadField → Element
  | key text => .text "Key" text
  | uploadId text => .text "UploadId" text
  | storageClass text => .text "StorageClass" text
  | initiated text => .text "Initiated" text
  | person role fields => .node role.elementName (fields.map PersonField.element)

def key? : UploadField → Option String
  | key text => some (trimmed text)
  | _ => none

def uploadId? : UploadField → Option String
  | uploadId text => some (trimmed text)
  | _ => none

def storageClass? : UploadField → Option String
  | storageClass text => some (trimmed text)
  | _ => none

def initiated? : UploadField → Option String
  | initiated text => some (trimmed text)
  | _ => none

/-- The person in the role. -/
def person? (wanted : UploadsPage.Role) : UploadField → Option Person
  | person role fields => if role = wanted then some (({} : Person).showing fields) else none
  | _ => none

end UploadField

end Listing

/-- The upload, but for what the fields say. -/
def Upload.showing (u : Upload) (fields : List UploadField) : Upload :=
  { u with
    key := (lastOf UploadField.key? fields).getD u.key
    uploadId := (lastOf UploadField.uploadId? fields).getD u.uploadId
    storageClass := (lastOf UploadField.storageClass? fields).or u.storageClass
    initiated := (lastOf UploadField.initiated? fields).or u.initiated
    initiator := (lastOf (UploadField.person? .initiator) fields).or u.initiator
    owner := (lastOf (UploadField.person? .owner) fields).or u.owner }

theorem Upload.showing_cons (u : Upload) (field : UploadField) (fields : List UploadField) :
    (u.showing [field]).showing fields = u.showing (field :: fields) := by
  simp only [showing, lastOf_cons, lastOf_nil, Option.none_or, Option.getD_or,
    Option.or_assoc]

namespace Listing

/-- An element of a page: an upload, the bucket of all of them, a group of common prefixes, the
prefix that was asked for, or what there is beyond the page. -/
inductive UploadsItem where
  | upload (fields : List UploadField)
  | bucket (name : String)
  | commonPrefixes (prefixes : List String)
  | askedPrefix (text : String)
  | isTruncated (truncated : Bool)
  | nextKeyMarker (text : String)
  | nextUploadIdMarker (text : String)

namespace UploadsItem

def element : UploadsItem → Element
  | upload fields => .node "Upload" (fields.map UploadField.element)
  | bucket name => .text "Bucket" name
  | commonPrefixes prefixes => .node "CommonPrefixes" (prefixes.map (Element.text "Prefix"))
  | askedPrefix text => .text "Prefix" text
  | isTruncated truncated => .text "IsTruncated" (toString truncated)
  | nextKeyMarker text => .text "NextKeyMarker" text
  | nextUploadIdMarker text => .text "NextUploadIdMarker" text

/-- The upload, but for its bucket. -/
def upload? : UploadsItem → Option Upload
  | upload fields => some (({} : Upload).showing fields)
  | _ => none

def bucket? : UploadsItem → Option String
  | bucket name => some (trimmed name)
  | _ => none

def prefixes : UploadsItem → List String
  | commonPrefixes prefixes => prefixes.map trimmed
  | _ => []

def isTruncated? : UploadsItem → Option Bool
  | isTruncated truncated => some truncated
  | _ => none

/-- A marker of blanks alone is none. -/
def nextKeyMarker? : UploadsItem → Option (Option String)
  | nextKeyMarker text => some (nonEmpty (trimmed text))
  | _ => none

def nextUploadIdMarker? : UploadsItem → Option (Option String)
  | nextUploadIdMarker text => some (nonEmpty (trimmed text))
  | _ => none

/-- What a page with the items shows. -/
def page (items : List UploadsItem) : Chunk Upload :=
  let truncated := (lastOf isTruncated? items).getD false
  { items := (items.filterMap upload?).map fun u =>
      { u with bucket := (lastOf bucket? items).getD "" }
    commonPrefixes := items.flatMap prefixes
    truncated
    next :=
      if truncated then
        { primary := (lastOf nextKeyMarker? items).join
          secondary := (lastOf nextUploadIdMarker? items).join }
      else {} }

/-- What a page of uploads shows is put together as on any page, but for the bucket. -/
def view : PageView UploadsItem Upload :=
  { entry? := upload?, prefixes, isTruncated?, primary? := nextKeyMarker?,
    secondary? := nextUploadIdMarker? }

/-- What has been shown, and then the items: the chunk, and the bucket of its uploads. -/
def shown (p : Chunk Upload × String) (items : List UploadsItem) : Chunk Upload × String :=
  (view.shown p.1 items, (lastOf bucket? items).getD p.2)

theorem shown_nil (p : Chunk Upload × String) : shown p [] = p := by
  rw [shown, PageView.shown_nil]
  rfl

theorem shown_cons (p : Chunk Upload × String) (item : UploadsItem) (items : List UploadsItem) :
    shown (shown p [item]) items = shown p (item :: items) := by
  simp only [shown, PageView.shown_cons, lastOf_cons, lastOf_nil, Option.none_or, Option.getD_or]

end UploadsItem

namespace UploadsPage

/-- The names that the reader of a page of uploads knows. -/
def known : List String :=
  ["Upload", "Initiator", "Owner", "CommonPrefixes", "ID", "DisplayName", "Key", "UploadId",
    "StorageClass", "Initiated", "Bucket", "Prefix", "IsTruncated", "NextKeyMarker",
    "NextUploadIdMarker"]

theorem passesOver_visit : PassesOver visit known := by
  refine .of_names (fun name h p => ?_) (fun name h p text => ?_)
  · unfold visit
    split <;> simp_all [known]
  · have hperson : ∀ role person, p.person = some (role, person) →
        closeInPerson p role person name text = p := by
      intro role person hperson
      rw [closeInPerson, if_neg (by simp_all [known]), Person.close_of_ne (by simp_all [known])
        (by simp_all [known]), ← hperson]
    have hupload : ∀ u, closeInUpload p u name text = p := by
      intro u
      unfold closeInUpload
      split <;> simp_all [known]
    have hpage : closeInPage p name text = p := by
      unfold closeInPage
      split <;> simp_all [known]
    simp only [visit]
    split
    · next hrole => rw [hperson _ _ hrole]
    · rw [hupload]
    · rw [hpage]

/-! ### An upload -/

/-- The reader between the items of a page, given what they have shown. -/
def between (p : Chunk Upload × String) : Progress := { chunk := p.1, bucket := p.2 }

def inUpload (p : Chunk Upload × String) (u : Upload) : Progress :=
  { between p with current := some u }

def inPerson (p : Chunk Upload × String) (u : Upload) (role : Role) (person : Person) : Progress :=
  { inUpload p u with person := some (role, person) }

def inPrefixes (p : Chunk Upload × String) (prefixes : List String) : Progress :=
  { chunk := { p.1 with commonPrefixes := prefixes }, bucket := p.2, inCommonPrefixes := true }

variable {p : Chunk Upload × String} {u : Upload}

/-- A person goes to the upload around it in its own role, and nothing of it is remembered. -/
theorem foldlM_person (role : Role) (fields : List PersonField) :
    (UploadField.person role fields).element.nodes.foldlM visit (inUpload p u) =
      .ok (inUpload p (u.showing [.person role fields])) := by
  have hfields := foldlM_personFields visit (inPerson p u role) (fun _ _ => rfl) (fun _ _ => rfl)
    {} fields
  cases role with
  | initiator => exact Element.foldlM_node rfl hfields
  | owner => exact Element.foldlM_node rfl hfields

theorem foldlM_uploadFields (u : Upload) (fields : List UploadField) :
    (Element.nodesAll (fields.map UploadField.element)).foldlM visit (inUpload p u) =
      .ok (inUpload p (u.showing fields)) := by
  refine Element.foldlM_map (inUpload p) Upload.showing (fun _ => rfl) Upload.showing_cons
    (fun u field => ?_) u fields
  cases field with
  | person role fields => exact foldlM_person role fields
  | key text => rw [UploadField.element, Element.foldlM_text rfl]; rfl
  | uploadId text => rw [UploadField.element, Element.foldlM_text rfl]; rfl
  | storageClass text => rw [UploadField.element, Element.foldlM_text rfl]; rfl
  | initiated text => rw [UploadField.element, Element.foldlM_text rfl]; rfl

/-! ### The page -/

/-- Between the items of a page nothing is remembered but what has been shown. -/
theorem foldlM_item (p : Chunk Upload × String) (item : UploadsItem) :
    item.element.nodes.foldlM visit (between p) = .ok (between (UploadsItem.shown p [item])) := by
  rw [UploadsItem.shown, lastOf_singleton]
  cases item with
  | upload fields =>
    rw [PageView.shown_of_prefixes_eq_nil rfl]
    exact Element.foldlM_node rfl (foldlM_uploadFields {} fields)
  | commonPrefixes l =>
    rw [PageView.shown_of_entry?_eq_none rfl]
    exact foldlM_commonPrefixes visit
      (fun prefixes => between ({ p.1 with commonPrefixes := prefixes }, p.2)) (inPrefixes p)
      (fun _ => rfl) (fun _ _ => rfl) (fun _ => rfl) p.1.commonPrefixes l
  | isTruncated truncated =>
    rw [UploadsItem.element, Element.foldlM_text rfl, trimmed_toString_bool,
      PageView.shown_of_prefixes_eq_nil rfl]
    simp only [visit, between, closeInPage, toString_eq_true]
    rfl
  | bucket name => rw [PageView.shown_of_prefixes_eq_nil rfl]; rfl
  | askedPrefix text => rw [PageView.shown_of_prefixes_eq_nil rfl]; rfl
  | nextKeyMarker text => rw [PageView.shown_of_prefixes_eq_nil rfl]; rfl
  | nextUploadIdMarker text => rw [PageView.shown_of_prefixes_eq_nil rfl]; rfl

/-- **A page of uploads is read as what it shows.** -/
theorem read_uploads_of_strewn {items : List UploadsItem} {body : Bytes}
    (h : StrewnDocument known "ListMultipartUploadsResult" (items.map UploadsItem.element) body) :
    read body = .ok (UploadsItem.page items) := by
  have hread : readDocument "ListMultipartUploadsResult" visit {} body =
      .ok (between (UploadsItem.shown ({}, "") items)) :=
    readDocument_of_items h passesOver_visit between UploadsItem.shown UploadsItem.shown_nil
      UploadsItem.shown_cons foldlM_item (fun _ => rfl) (fun _ => rfl) ({}, "")
  rw [read, hread]
  show Except.ok (Chunk.settle { UploadsItem.view.shown {} items with items := _ }) = _
  rw [Chunk.settle_withItems, PageView.settle_shown]
  rfl

/-- A page with its bucket between the uploads, a stranger in a person, and an upload without
persons behind one with two. -/
def crowdedPage : String :=
  "<ListMultipartUploadsResult><KeyMarker/><Upload><Owner><ID>o</ID></Owner><Key> a</Key>" ++
  "<Initiator><DisplayName>i</DisplayName><Role>x</Role></Initiator></Upload>" ++
  "<Bucket> b\n</Bucket>\n<Upload><UploadId>2</UploadId></Upload>" ++
  "<IsTruncated>true</IsTruncated><NextKeyMarker>a</NextKeyMarker>" ++
  "<NextUploadIdMarker> </NextUploadIdMarker></ListMultipartUploadsResult>"

theorem read_crowdedPage :
    StrewnDocument known "ListMultipartUploadsResult"
        ([.upload [.person .owner [.id "o"], .key " a", .person .initiator [.displayName "i"]],
          .bucket " b\n", .upload [.uploadId "2"], .isTruncated true, .nextKeyMarker "a",
          .nextUploadIdMarker " "].map UploadsItem.element)
        (utf8 crowdedPage) ∧
      read (utf8 crowdedPage) = .ok
        { items := [{ bucket := "b", key := "a", owner := some { id := "o" },
                      initiator := some { displayName := some "i" } },
            { bucket := "b", uploadId := "2" }]
          truncated := true
          next := { primary := some "a" } } := by
  have howner : Strewn known ([.id "o"].map PersonField.element) _ :=
    .text allBlank_nil (tagged_of_isName (by decide) _) (.done allBlank_nil)
  have hinitiator : Strewn known ([.displayName "i"].map PersonField.element) _ :=
    .text allBlank_nil (tagged_of_isName (by decide) _)
      (.stranger allBlank_nil (.text "x") (tagged_of_isName (by decide) _)
        (by decide : "Role" ∉ known) (.done allBlank_nil))
  have hfirst : Strewn known ([.person .owner [.id "o"], .key " a",
      .person .initiator [.displayName "i"]].map UploadField.element) _ :=
    .node allBlank_nil howner (tagged_of_isName (by decide) _)
      (.text allBlank_nil (tagged_of_isName (by decide) _)
        (.node allBlank_nil hinitiator (tagged_of_isName (by decide) _) (.done allBlank_nil)))
  have hsecond : Strewn known ([.uploadId "2"].map UploadField.element) _ :=
    .text allBlank_nil (tagged_of_isName (by decide) _) (.done allBlank_nil)
  have hkeyMarker : Tagged "KeyMarker" [] _ :=
    @Tagged.empty _ "KeyMarker" [] (by decide) rfl areNames_nil
  have hpage : StrewnDocument known "ListMultipartUploadsResult"
      ([.upload [.person .owner [.id "o"], .key " a", .person .initiator [.displayName "i"]],
        .bucket " b\n", .upload [.uploadId "2"], .isTruncated true, .nextKeyMarker "a",
        .nextUploadIdMarker " "].map UploadsItem.element) _ :=
    .intro (.blank allBlank_nil)
      (.stranger allBlank_nil (.text "") hkeyMarker (by decide)
        (.node allBlank_nil hfirst (tagged_of_isName (by decide) _)
          (.text allBlank_nil (tagged_of_isName (by decide) _)
            (.node (by decide : AllBlank [10]) hsecond (tagged_of_isName (by decide) _)
              (.text allBlank_nil (tagged_of_isName (by decide) _)
                (.text allBlank_nil (tagged_of_isName (by decide) _)
                  (.text allBlank_nil (tagged_of_isName (by decide) _)
                    (.done allBlank_nil))))))))
      (tagged_of_isName (by decide) _) allBlank_nil
  have hbody := Eq.mp (congrArg (StrewnDocument known "ListMultipartUploadsResult" _)
    (by decide +kernel : _ = utf8 crowdedPage)) hpage
  exact ⟨hbody, (read_uploads_of_strewn hbody).trans rfl⟩

end UploadsPage

end Listing

end ObjectStore
