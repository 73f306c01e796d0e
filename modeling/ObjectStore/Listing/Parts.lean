import ObjectStore.Listing.Chunk
import ObjectStore.Xml.Field
/-!
# Pages of parts

The parts that an upload has so far.
-/

namespace ObjectStore

structure Part where
  number : UInt32 := 0
  /-- The entity tag without the quotes around it. -/
  etag : String := ""
  /-- Unknown for a copied part. -/
  size : Option UInt64 := none
  lastModified : Option String := none
  deriving Repr, DecidableEq

namespace Listing.PartsPage

open ObjectStore.Xml

structure Progress where
  chunk : Chunk Part := {}
  current : Option Part := none

def closeInPart (p : Progress) (part : Part) (name text : String) : Except Xml.Fault Progress :=
  match name with
  | "PartNumber" => do
    let number ← readUInt32 "PartNumber" text
    return { p with current := some { part with number } }
  | "ETag" => .ok { p with current := some { part with etag := unquoteTag text } }
  | "Size" => do
    let size ← readUInt64 "Size" text
    return { p with current := some { part with size := some size } }
  | "LastModified" => .ok { p with current := some { part with lastModified := some text } }
  | "Part" =>
    .ok { p with current := none, chunk := { p.chunk with items := p.chunk.items ++ [part] } }
  | _ => .ok p

def closeInPage (p : Progress) (name text : String) : Progress :=
  match name with
  | "IsTruncated" => { p with chunk := { p.chunk with truncated := text = "true" } }
  | "NextPartNumberMarker" =>
    { p with chunk := { p.chunk with next := { p.chunk.next with primary := nonEmpty text } } }
  | _ => p

def visit (p : Progress) : Node → Except Xml.Fault Progress
  | .opened "Part" => .ok { p with current := some {} }
  | .opened _ => .ok p
  | .closed name text =>
    match p.current with
    | some part => closeInPart p part name text
    | none => .ok (closeInPage p name text)

def read (s : Bytes) : Except Xml.Fault (Chunk Part) := do
  let p ← readDocument "ListPartsResult" visit {} s
  return p.chunk.settle

end Listing.PartsPage

end ObjectStore
