import ObjectStore.Fault
import ObjectStore.Listing.Parts
import ObjectStore.Xml.Element
import ObjectStore.Xml.Field
/-!
# Documents of an upload

What the service answers when an upload starts, when a part or an object is copied and when
an upload completes, and the manifest that asks for completion.  **A success status is no
success yet:** the body of a copy or a completion may still be an error document, and then
`Outcome.failed` is what it says.
-/

namespace ObjectStore

def ServiceFailure.close (f : ServiceFailure) (name text : String) : ServiceFailure :=
  match name with
  | "Code" => { f with code := text }
  | "Message" => { f with text := text }
  | "RequestId" => { f with requestId := some text }
  | "HostId" => { f with hostId := some text }
  | "Resource" => { f with resource := some text }
  | _ => f

open ObjectStore.Xml

def ServiceFailure.read (status : Nat) (s : Bytes) : Except Xml.Fault ServiceFailure := do
  let visit (f : ServiceFailure) : Node → Except Xml.Fault ServiceFailure
    | .closed name text => .ok (f.close name text)
    | .opened _ => .ok f
  let f ← readDocument "Error" visit { status } s
  if f.code.isEmpty then .error .noErrorCode else .ok f

/-- What a body that came with a success status turns out to be. -/
inductive Outcome (α : Type) where
  | success (value : α)
  | failed (failure : ServiceFailure)
  deriving Repr

namespace Outcome

/-- Read a body whose first element is either the expected one or an error. -/
def read {α : Type} (expected : String) (close : α → String → String → Option α) (start : α)
    (s : Bytes) : Except Xml.Fault (Outcome α) := do
  let visit (p : α × ServiceFailure) : Node → Except Xml.Fault (α × ServiceFailure)
    | .closed name text =>
      match close p.1 name text with
      | some value => .ok (value, p.2)
      | none => .ok (p.1, p.2.close name text)
    | .opened _ => .ok p
  let (p, root) ← (Document.ofBytes s).visit visit (start, { status := 200 })
  if root = some "Error" then return .failed p.2
  expectRoot root expected
  return .success p.1

end Outcome

/-! ### Initiation -/

/-- Read the identifier that the service gives a new upload. -/
def readUploadId (s : Bytes) : Except Xml.Fault String := do
  let visit (id : String) : Node → Except Xml.Fault String
    | .closed "UploadId" text => .ok text
    | _ => .ok id
  let id ← readDocument "InitiateMultipartUploadResult" visit "" s
  if id.isEmpty then .error .noUploadId else .ok id

/-! ### Completion -/

structure Completion where
  location : Option String := none
  bucket : String := ""
  key : String := ""
  etag : String := ""
  deriving Repr, DecidableEq

namespace Completion

def close (c : Completion) (name text : String) : Option Completion :=
  match name with
  | "Location" => some { c with location := some text }
  | "Bucket" => some { c with bucket := text }
  | "Key" => some { c with key := text }
  | "ETag" => some { c with etag := unquoteTag text }
  | _ => none

def read (s : Bytes) : Except Xml.Fault (Outcome Completion) :=
  Outcome.read "CompleteMultipartUploadResult" close {} s

end Completion

/-! ### Copies -/

structure CopyResult where
  etag : String := ""
  lastModified : Option String := none
  deriving Repr, DecidableEq

namespace CopyResult

def close (c : CopyResult) (name text : String) : Option CopyResult :=
  match name with
  | "ETag" => some { c with etag := unquoteTag text }
  | "LastModified" => some { c with lastModified := some text }
  | _ => none

/-- Read the result of copying a part or an object, as the first element tells them apart. -/
def read (expected : String) (s : Bytes) : Except Xml.Fault (Outcome CopyResult) :=
  Outcome.read expected close {} s

end CopyResult

/-! ### The manifest -/

/-- The text without any double quotes at its two ends. -/
def trimQuotes (s : String) : String :=
  String.ofList (Text.trimBoth (· = '"') s.toList)

def Part.element (p : Part) : Element :=
  .node "Part" [
    .text "PartNumber" (toString p.number.toNat),
    .quoted "ETag" (trimQuotes p.etag)]

/-- The document that asks for an upload to be made of the given parts. -/
def manifest (parts : List Part) : String :=
  renderDocument "CompleteMultipartUpload" (parts.map Part.element)

end ObjectStore
