import ObjectStore.Listing.Versions
import ObjectStore.Metadata
/-!
# Pages of uploads

The uploads of a bucket that are neither complete nor aborted.  A page names its bucket once;
every upload on it is given that bucket.
-/

namespace ObjectStore

/-- An upload in parts, started here or found by a listing. -/
structure Upload where
  uploadId : String := ""
  bucket : String := ""
  key : String := ""
  storageClass : Option String := none
  initiator : Option Listing.Person := none
  owner : Option Listing.Person := none
  initiated : Option String := none
  /-- What the upload was started with; nothing is known of listed uploads. -/
  metadata : Metadata := Metadata.empty

namespace Listing.UploadsPage

open ObjectStore.Xml

inductive Role where
  | initiator
  | owner
  deriving Repr, DecidableEq

def Role.assign (role : Role) (person : Person) (u : Upload) : Upload :=
  match role with
  | .initiator => { u with initiator := some person }
  | .owner => { u with owner := some person }

structure Progress where
  chunk : Chunk Upload := {}
  bucket : String := ""
  current : Option Upload := none
  person : Option (Role × Person) := none
  inCommonPrefixes : Bool := false

def closeInPerson (p : Progress) (role : Role) (person : Person) (name text : String) :
    Progress :=
  if name = "Initiator" ∨ name = "Owner" then
    { p with person := none, current := p.current.map (role.assign person) }
  else { p with person := some (role, person.close name text) }

def closeInUpload (p : Progress) (u : Upload) (name text : String) : Progress :=
  match name with
  | "Key" => { p with current := some { u with key := text } }
  | "UploadId" => { p with current := some { u with uploadId := text } }
  | "StorageClass" => { p with current := some { u with storageClass := some text } }
  | "Initiated" => { p with current := some { u with initiated := some text } }
  | "Upload" =>
    { p with current := none, chunk := { p.chunk with items := p.chunk.items ++ [u] } }
  | _ => p

def closeInPage (p : Progress) (name text : String) : Progress :=
  match name with
  | "Bucket" => { p with bucket := text }
  | "Prefix" =>
    if p.inCommonPrefixes then
      { p with chunk := { p.chunk with commonPrefixes := p.chunk.commonPrefixes ++ [text] } }
    else p
  | "CommonPrefixes" => { p with inCommonPrefixes := false }
  | "IsTruncated" => { p with chunk := { p.chunk with truncated := text = "true" } }
  | "NextKeyMarker" =>
    { p with chunk := { p.chunk with next := { p.chunk.next with primary := nonEmpty text } } }
  | "NextUploadIdMarker" =>
    { p with chunk := { p.chunk with next := { p.chunk.next with secondary := nonEmpty text } } }
  | _ => p

/-- Begin to read a person, which only an upload has. -/
def openPerson (p : Progress) (role : Role) : Progress :=
  if p.current.isSome then { p with person := some (role, {}) } else p

def visit (p : Progress) : Node → Except Xml.Fault Progress
  | .opened "Upload" => .ok { p with current := some {} }
  | .opened "Initiator" => .ok (openPerson p .initiator)
  | .opened "Owner" => .ok (openPerson p .owner)
  | .opened "CommonPrefixes" => .ok { p with inCommonPrefixes := true }
  | .opened _ => .ok p
  | .closed name text =>
    match p.person, p.current with
    | some (role, person), _ => .ok (closeInPerson p role person name text)
    | none, some u => .ok (closeInUpload p u name text)
    | none, none => .ok (closeInPage p name text)

def read (s : Bytes) : Except Xml.Fault (Chunk Upload) := do
  let p ← readDocument "ListMultipartUploadsResult" visit {} s
  let items := p.chunk.items.map fun u => { u with bucket := p.bucket }
  return Chunk.settle { p.chunk with items }

end Listing.UploadsPage

end ObjectStore
