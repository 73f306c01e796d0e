import ObjectStore.Listing.Chunk
import ObjectStore.Xml.Field
/-!
# Pages of objects

The current objects of a bucket, as the second version of the object listing reports them.
-/

namespace ObjectStore.Listing

open ObjectStore.Xml

structure StoredObject where
  key : String := ""
  size : UInt64 := 0
  lastModified : Option String := none
  etag : Option String := none
  storageClass : Option String := none
  deriving Repr, DecidableEq

namespace ObjectsPage

structure Progress where
  chunk : Chunk StoredObject := {}
  current : Option StoredObject := none
  inCommonPrefixes : Bool := false

/-- Change the object being read, if there is one. -/
def Progress.update (p : Progress) (f : StoredObject → StoredObject) : Progress :=
  { p with current := p.current.map f }

def close (p : Progress) (name text : String) : Except Xml.Fault Progress :=
  match name with
  | "Key" => .ok (p.update fun o => { o with key := text })
  | "Size" =>
    match p.current with
    | none => .ok p
    | some o => do
      let size ← readUInt64 "Size" text
      return { p with current := some { o with size } }
  | "LastModified" => .ok (p.update fun o => { o with lastModified := some text })
  | "ETag" => .ok (p.update fun o => { o with etag := some (unquoteTag text) })
  | "StorageClass" => .ok (p.update fun o => { o with storageClass := some text })
  | "Contents" =>
    .ok { p with current := none
                 chunk := { p.chunk with items := p.chunk.items ++ p.current.toList } }
  | "Prefix" =>
    if p.inCommonPrefixes then
      .ok { p with chunk := { p.chunk with commonPrefixes := p.chunk.commonPrefixes ++ [text] } }
    else .ok p
  | "CommonPrefixes" => .ok { p with inCommonPrefixes := false }
  | "IsTruncated" => .ok { p with chunk := { p.chunk with truncated := text = "true" } }
  | "NextContinuationToken" =>
    .ok { p with chunk := { p.chunk with
      next := { p.chunk.next with primary := nonEmpty text } } }
  | _ => .ok p

def visit (p : Progress) : Node → Except Xml.Fault Progress
  | .opened "Contents" => .ok { p with current := some {} }
  | .opened "CommonPrefixes" => .ok { p with inCommonPrefixes := true }
  | .opened _ => .ok p
  | .closed name text => close p name text

def read (s : Bytes) : Except Xml.Fault (Chunk StoredObject) := do
  let p ← readDocument "ListBucketResult" visit {} s
  return p.chunk.settle

end ObjectsPage

end ObjectStore.Listing
