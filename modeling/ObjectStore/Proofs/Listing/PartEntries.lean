import ObjectStore.Listing.Parts
import ObjectStore.Proofs.Listing.PageItems
/-!
# The entries on a page of parts

Inside the element of a part the reader takes every name for one of that part, and outside for one
of the page.  A part begins with number zero and an empty tag, and it is added to the page when its
element ends (`foldlM_item`).  What else a service says of the upload, its persons and its names,
are strangers to this reader.

**A page is read as what it shows** (`PartsPage.read_of_strewn`).
-/

namespace ObjectStore

open Listing Xml

/-! ### Entity tags -/

/-- The tag as it stands in a header. -/
def quotedTag (tag : String) : String := "\"" ++ tag ++ "\""

/-- The element of a tag.  The quotes around it are written as references or as they are. -/
def tagElement (tag : String) : (plain : Bool) → Element
  | false => .text "ETag" (quotedTag tag)
  | true => .quoted "ETag" tag

theorem nodes_tagElement (tag : String) (plain : Bool) :
    (tagElement tag plain).nodes = [.opened "ETag", .closed "ETag" (quotedTag tag)] := by
  cases plain with
  | false =>
    rw [tagElement, Element.nodes, quotedTag, trimmed_quoted]
  | true => rfl

theorem foldlM_tagElement {σ : Type} {f : σ → Node → Except Xml.Fault σ} {s : σ}
    (hopened : f s (.opened "ETag") = .ok s) (tag : String) (plain : Bool) :
    (tagElement tag plain).nodes.foldlM f s = f s (.closed "ETag" (quotedTag tag)) := by
  rw [nodes_tagElement]
  exact Element.foldlM_pair hopened _

/-! ### What a page shows -/

/-- An element of a part. -/
inductive PartField where
  | number (n : UInt32)
  | etag (tag : String) (plain : Bool)
  | size (bytes : UInt64)
  | lastModified (text : String)

namespace PartField

def element : PartField → Element
  | number n => .text "PartNumber" (toString n.toNat)
  | etag tag plain => tagElement tag plain
  | size bytes => .text "Size" (toString bytes.toNat)
  | lastModified text => .text "LastModified" text

def number? : PartField → Option UInt32
  | number n => some n
  | _ => none

def etag? : PartField → Option String
  | etag tag _ => some tag
  | _ => none

def size? : PartField → Option UInt64
  | size bytes => some bytes
  | _ => none

def lastModified? : PartField → Option String
  | lastModified text => some (trimmed text)
  | _ => none

end PartField

/-- The part, but for what the fields say. -/
def Part.showing (p : Part) (fields : List PartField) : Part :=
  { number := (lastOf PartField.number? fields).getD p.number
    etag := (lastOf PartField.etag? fields).getD p.etag
    size := (lastOf PartField.size? fields).or p.size
    lastModified := (lastOf PartField.lastModified? fields).or p.lastModified }

theorem Part.showing_cons (p : Part) (field : PartField) (fields : List PartField) :
    (p.showing [field]).showing fields = p.showing (field :: fields) := by
  simp only [showing, lastOf_cons, lastOf_nil, Option.none_or, Option.getD_or, Option.or_assoc]

/-- An element of a page: a part, or what there is beyond the page. -/
inductive PartsItem where
  | part (fields : List PartField)
  | isTruncated (truncated : Bool)
  | nextPartNumberMarker (text : String)

namespace PartsItem

def element : PartsItem → Element
  | part fields => .node "Part" (fields.map PartField.element)
  | isTruncated truncated => .text "IsTruncated" (toString truncated)
  | nextPartNumberMarker text => .text "NextPartNumberMarker" text

def part? : PartsItem → Option Part
  | part fields => some (({} : Part).showing fields)
  | _ => none

def isTruncated? : PartsItem → Option Bool
  | isTruncated truncated => some truncated
  | _ => none

/-- A marker of blanks alone is none. -/
def nextPartNumberMarker? : PartsItem → Option (Option String)
  | nextPartNumberMarker text => some (nonEmpty (trimmed text))
  | _ => none

/-- A page of parts has no common prefixes and one marker. -/
def view : PageView PartsItem Part :=
  { entry? := part?, prefixes := fun _ => [], isTruncated?, primary? := nextPartNumberMarker?,
    secondary? := fun _ => none }

end PartsItem

namespace Listing.PartsPage

/-- The names that the reader of a page of parts knows. -/
def known : List String :=
  ["Part", "PartNumber", "ETag", "Size", "LastModified", "IsTruncated", "NextPartNumberMarker"]

theorem passesOver_visit : PassesOver visit known := by
  refine .of_names (fun name h p => ?_) (fun name h p text => ?_)
  · unfold visit
    split <;> simp_all [known]
  · have hpart : ∀ part, closeInPart p part name text = .ok p := by
      intro part
      unfold closeInPart
      split <;> simp_all [known]
    have hpage : closeInPage p name text = p := by
      unfold closeInPage
      split <;> simp_all [known]
    simp only [visit]
    split
    · exact hpart _
    · rw [hpage]

/-! ### A part -/

variable {c : Chunk Part}

def inPart (c : Chunk Part) (part : Part) : Progress := { chunk := c, current := some part }

theorem foldlM_partFields (part : Part) (fields : List PartField) :
    (Element.nodesAll (fields.map PartField.element)).foldlM visit (inPart c part) =
      .ok (inPart c (part.showing fields)) := by
  refine Element.foldlM_map (inPart c) Part.showing (fun _ => rfl) Part.showing_cons
    (fun part field => ?_) part fields
  cases field with
  | number n =>
    rw [PartField.element, Element.foldlM_text rfl, trimmed_toString]
    simp only [visit, inPart, closeInPart, readUInt32_toString]
    rfl
  | etag tag plain =>
    rw [PartField.element, foldlM_tagElement rfl]
    simp only [visit, inPart, closeInPart, quotedTag, unquoteTag_quoted]
    rfl
  | size bytes =>
    rw [PartField.element, Element.foldlM_text rfl, trimmed_toString]
    simp only [visit, inPart, closeInPart, readUInt64_toString]
    rfl
  | lastModified text => rw [PartField.element, Element.foldlM_text rfl]; rfl

/-! ### The page -/

theorem foldlM_item (c : Chunk Part) (item : PartsItem) :
    item.element.nodes.foldlM visit { chunk := c } =
      .ok { chunk := PartsItem.view.shown c [item] } := by
  rw [PageView.shown_of_prefixes_eq_nil rfl]
  cases item with
  | part fields => exact Element.foldlM_node rfl (foldlM_partFields {} fields)
  | isTruncated truncated =>
    rw [PartsItem.element, Element.foldlM_text rfl, trimmed_toString_bool]
    simp only [visit, closeInPage, toString_eq_true]
    rfl
  | nextPartNumberMarker text => rw [PartsItem.element, Element.foldlM_text rfl]; rfl

theorem read_of_strewn {items : List PartsItem} {body : Bytes}
    (h : StrewnDocument known "ListPartsResult" (items.map PartsItem.element) body) :
    read body = .ok (PartsItem.view.page items) := by
  have hread := readDocument_of_items h passesOver_visit (fun c => ({ chunk := c } : Progress))
    PartsItem.view.shown PageView.shown_nil PageView.shown_cons foldlM_item (fun _ => rfl)
    (fun _ => rfl) {}
  rw [read, hread, ← PageView.settle_shown]
  rfl

end Listing.PartsPage

end ObjectStore
