import ObjectStore.Listing.Chunk
import ObjectStore.Xml.Field
/-!
# Pages of versions

The versions and delete markers of a bucket in the order of the page.  A person is read
apart from the entry around it, so that a name inside one never reaches a field of the other.
-/

namespace ObjectStore.Listing

open ObjectStore.Xml

/-- The owner or initiator of something stored. -/
structure Person where
  id : String := ""
  displayName : Option String := none
  deriving Repr, DecidableEq

def Person.close (p : Person) (name text : String) : Person :=
  match name with
  | "ID" => { p with id := text }
  | "DisplayName" => { p with displayName := some text }
  | _ => p

/-- A version of an object, or a delete marker in its place. -/
structure ObjectVersion where
  key : String := ""
  versionId : String := ""
  isLatest : Bool := false
  isDeleteMarker : Bool := false
  lastModified : Option String := none
  etag : Option String := none
  size : Option UInt64 := none
  storageClass : Option String := none
  owner : Option Person := none
  deriving Repr, DecidableEq

namespace VersionsPage

structure Progress where
  chunk : Chunk ObjectVersion := {}
  current : Option ObjectVersion := none
  owner : Option Person := none
  inCommonPrefixes : Bool := false

def closeInOwner (p : Progress) (person : Person) (name text : String) : Progress :=
  if name = "Owner" then
    { p with owner := none, current := p.current.map fun v => { v with owner := some person } }
  else { p with owner := some (person.close name text) }

def closeInEntry (p : Progress) (v : ObjectVersion) (name text : String) :
    Except Xml.Fault Progress :=
  let set (v : ObjectVersion) : Except Xml.Fault Progress := .ok { p with current := some v }
  match name with
  | "Key" => set { v with key := text }
  | "VersionId" => set { v with versionId := text }
  | "IsLatest" => set { v with isLatest := text = "true" }
  | "LastModified" => set { v with lastModified := some text }
  | "ETag" => set { v with etag := some (unquoteTag text) }
  | "Size" => do
    let size ← readUInt64 "Size" text
    set { v with size := some size }
  | "StorageClass" => set { v with storageClass := some text }
  | "Version" | "DeleteMarker" =>
    .ok { p with current := none, chunk := { p.chunk with items := p.chunk.items ++ [v] } }
  | _ => .ok p

def closeInPage (p : Progress) (name text : String) : Progress :=
  match name with
  | "Prefix" =>
    if p.inCommonPrefixes then
      { p with chunk := { p.chunk with commonPrefixes := p.chunk.commonPrefixes ++ [text] } }
    else p
  | "CommonPrefixes" => { p with inCommonPrefixes := false }
  | "IsTruncated" => { p with chunk := { p.chunk with truncated := text = "true" } }
  | "NextKeyMarker" =>
    { p with chunk := { p.chunk with next := { p.chunk.next with primary := nonEmpty text } } }
  | "NextVersionIdMarker" =>
    { p with chunk := { p.chunk with next := { p.chunk.next with secondary := nonEmpty text } } }
  | _ => p

def visit (p : Progress) : Node → Except Xml.Fault Progress
  | .opened "Version" => .ok { p with current := some {} }
  | .opened "DeleteMarker" => .ok { p with current := some { isDeleteMarker := true } }
  | .opened "Owner" => .ok { p with owner := some {} }
  | .opened "CommonPrefixes" => .ok { p with inCommonPrefixes := true }
  | .opened _ => .ok p
  | .closed name text =>
    match p.owner, p.current with
    | some person, _ => .ok (closeInOwner p person name text)
    | none, some v => closeInEntry p v name text
    | none, none => .ok (closeInPage p name text)

def read (s : Bytes) : Except Xml.Fault (Chunk ObjectVersion) := do
  let p ← readDocument "ListVersionsResult" visit {} s
  return p.chunk.settle

end VersionsPage

end ObjectStore.Listing
