import ObjectStore.Calendar
import ObjectStore.Fault
import ObjectStore.Metadata
import ObjectStore.Text.Quoted
/-!
# Where the bytes of a part come from

A part is made of bytes at hand, of a stream, or of a range of an object that the service
already has.  A file gives streams of its ranges.
-/

namespace ObjectStore

inductive PartBody where
  | bytes (content : Bytes)
  /-- A stream; without a length it is read to its end before anything is sent. -/
  | stream (length : Option UInt64) (source : Http.Stream)

/-- The bytes of a part with the metadata that the caller gives them. -/
structure PartSource where
  metadata : Metadata := Metadata.empty
  body : PartBody

namespace PartSource

/-- The number of bytes, if it is known before they are read. -/
def length? (s : PartSource) : Option UInt64 :=
  match s.body with
  | .bytes b => some b.length.toUInt64
  | .stream n _ => n

def describe (s : PartSource) : String :=
  let entries := s.metadata.entries.entries.map fun e =>
    Text.quoted e.1 ++ ": " ++ Text.quoted e.2
  let length :=
    match s.length? with
    | some n => "Some(" ++ toString n.toNat ++ ")"
    | none => "None"
  "PartSource \x7b metadata: Metadata \x7b entries: \x7b" ++ ", ".intercalate entries ++
    "\x7d \x7d, length: " ++ length ++ " \x7d"

end PartSource

/-! ### Files -/

/-- A file: its size, and for each range either a stream of it or why it cannot be opened. -/
structure LocalFile where
  size : UInt64
  range : (offset length : UInt64) → Except InputFault Http.Stream

/-- Where no file has a byte any more; a range that begins there cannot be opened. -/
def LocalFile.offsetLimit : UInt64 := 9223372036854775808

/-- The file with the given content; a range past the end has the bytes there are. -/
def LocalFile.ofBytes (content : Bytes) : LocalFile :=
  { size := content.length.toUInt64,
    range := fun offset length =>
      if offset < offsetLimit then
        .ok { pieces := [(content.drop offset.toNat).take length.toNat] }
      else .error .farOffset }

def PartSource.ofFile (f : LocalFile) (offset length : UInt64) : Except InputFault PartSource :=
  (f.range offset length).map fun source => { body := .stream (some length) source }

/-! ### Copies -/

/-- An object, or a range of it, that becomes a part; the conditions on it are the server's
to check. -/
structure PartCopySource where
  bucket : String
  key : String
  versionId : Option String := none
  ifModifiedSince : Option Moment := none
  ifUnmodifiedSince : Option Moment := none
  ifMatch : List String := []
  ifNoneMatch : List String := []
  /-- The first and the last byte of the range; both or neither. -/
  rangeStart : Option UInt64 := none
  rangeEnd : Option UInt64 := none

def PartCopySource.rangeText (s : PartCopySource) : Except Fault (Option String) :=
  match s.rangeStart, s.rangeEnd with
  | some first, some last =>
    .ok (some ("bytes=" ++ toString first.toNat ++ "-" ++ toString last.toNat))
  | none, none => .ok none
  | _, _ => .error (.invalidArgument .openRange)

end ObjectStore
