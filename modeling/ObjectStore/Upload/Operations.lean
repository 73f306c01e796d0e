import ObjectStore.Client.Objects
import ObjectStore.Listing.Uploads
import ObjectStore.Upload.Source
/-!
# Operations of an upload

Starting an upload, giving it parts, completing and aborting it.  **The manifest is in
order:** whatever order the parts are given in, completion names them by ascending number,
each number once.
-/

namespace ObjectStore

structure Completed where
  location : Option String
  bucket : String
  key : String
  etag : String
  versionId : Option String
  /-- The parts that the manifest names. -/
  parts : List Part

namespace Client

def maxPartNumber : Nat := 10000

def checkPartNumber (n : UInt32) : Except Fault Unit :=
  if 1 ≤ n.toNat ∧ n.toNat ≤ maxPartNumber then .ok ()
  else .error (.invalidArgument (.partNumber n.toNat maxPartNumber))

def uploadQuery (u : Upload) : Query := Query.empty.set "uploadId" u.uploadId

def partQuery (u : Upload) (number : UInt32) : Query :=
  (uploadQuery u).set "partNumber" (toString number.toNat)

def uploadContext (u : Upload) : Context :=
  { bucket := some u.bucket, key := some u.key, uploadId := some u.uploadId }

/-! ### Starting -/

/-- Start an upload.  Its metadata goes with it except for a length, which would be wrong. -/
def startUpload (c : Client) (bucket key : String) (props : ObjectProperties) :
    Operation Upload := do
  let metadata := (c.newObjectMetadata props).remove "content-length"
  let uploadId ← c.fetch
    { method := .post, bucket := some bucket, key := some key,
      query := Query.empty.flag "uploads", metadata } .initiation readUploadId
  return { uploadId, bucket, key, storageClass := props.storageClass, metadata }

/-! ### Parts -/

/-- The body of a part and its length.  A stream without a length is read here. -/
def partBody : PartBody → Except Fault (Http.Body × UInt64)
  | .bytes b => .ok (.ofBytes b, b.length.toUInt64)
  | .stream (some n) source => .ok (.stream n source, n)
  | .stream none source =>
    match source.collect with
    | .ok b => .ok (.ofBytes b, b.length.toUInt64)
    | .error f => .error (.input f)

def partDescriptor (u : Upload) (number : UInt32) (metadata : Metadata) (body : Http.Body) :
    Descriptor :=
  let metadata := metadata.forPart
  { method := .put, bucket := some u.bucket, key := some u.key, query := partQuery u number,
    metadata, body,
    digest := if metadata.contains Metadata.payloadDigestName then none else some .unsigned }

def partOfResponse (u : Upload) (number : UInt32) (length : UInt64) (r : Http.Response) :
    Except Fault Part :=
  match r.header? "etag" with
  | some etag =>
    .ok { number, etag := trimQuotes etag, size := some length,
          lastModified := r.header? "last-modified" }
  | none => .error (.protocol (uploadContext u) .noEntityTag)

def uploadPart (c : Client) (u : Upload) (number : UInt32) (source : PartSource) :
    Operation Part := do
  Operation.lift (checkPartNumber number)
  let (body, length) ← Operation.lift (partBody source.body)
  let r ← c.dispatchAndDrain (partDescriptor u number source.metadata body)
  Operation.lift (partOfResponse u number length r)

def partCopyMetadata (c : Client) (s : PartCopySource) (range : Option String) : Metadata :=
  let entries :=
    [("copy-source", some (copySource s.bucket s.key s.versionId)),
      ("copy-source-if-modified-since", s.ifModifiedSince.map Moment.httpDate),
      ("copy-source-if-unmodified-since", s.ifUnmodifiedSince.map Moment.httpDate),
      ("copy-source-if-match", if s.ifMatch.isEmpty then none else some (",".intercalate s.ifMatch)),
      ("copy-source-if-none-match",
        if s.ifNoneMatch.isEmpty then none else some (",".intercalate s.ifNoneMatch)),
      ("copy-source-range", range)]
  Metadata.ofList (entries.filterMap fun e => e.2.map fun v => (c.profile.header e.1, v))

/-- Make a part of a range of an object.  The size of the part is not reported. -/
def copyPart (c : Client) (u : Upload) (number : UInt32) (s : PartCopySource) :
    Operation Part := do
  Operation.lift (checkPartNumber number)
  let range ← Operation.lift s.rangeText
  let d : Descriptor :=
    { method := .put, bucket := some u.bucket, key := some u.key, query := partQuery u number,
      metadata := c.partCopyMetadata s range }
  let outcome ← c.fetch d .copyPart (CopyResult.read "CopyPartResult")
  let result ← Operation.lift (succeed d.context outcome)
  return { number, etag := result.etag, lastModified := result.lastModified }

/-! ### Completion -/

/-- The first number that a list in ascending order repeats. -/
def repeatedNumber? : List Part → Option UInt32
  | a :: b :: l => if a.number = b.number then some a.number else repeatedNumber? (b :: l)
  | _ => none

/-- The parts by ascending number, if there is at least one and no number repeats. -/
def orderedParts (parts : List Part) : Except Fault (List Part) :=
  if parts.isEmpty then .error (.invalidArgument .noParts)
  else
    let sorted := parts.mergeSort fun a b => a.number ≤ b.number
    match repeatedNumber? sorted with
    | some n => .error (.invalidArgument (.repeatedPart n.toNat))
    | none => .ok sorted

def completionDescriptor (u : Upload) (parts : List Part) : Descriptor :=
  { method := .post, bucket := some u.bucket, key := some u.key, query := uploadQuery u,
    metadata := Metadata.empty.insert "content-type" "application/xml",
    body := .ofBytes (utf8 (manifest parts)) }

def completeUpload (c : Client) (u : Upload) (parts : List Part) : Operation Completed := do
  let parts ← Operation.lift (orderedParts parts)
  let d := completionDescriptor u parts
  let r ← c.dispatch d
  let outcome ← Operation.lift (readBody .completion d.context Completion.read r)
  match outcome with
  | .success doc =>
    return { location := doc.location,
             bucket := if doc.bucket.isEmpty then u.bucket else doc.bucket,
             key := if doc.key.isEmpty then u.key else doc.key,
             etag := doc.etag,
             versionId := r.header? "x-amz-version-id",
             parts }
  | .failed f => throw (.completionFailed d.context { f with context := d.context })

/-- Give up an upload; its parts are discarded. -/
def abortUpload (c : Client) (u : Upload) : Operation Unit := do
  let _ ← c.dispatchAndDrain
    { method := .delete, bucket := some u.bucket, key := some u.key, query := uploadQuery u,
      expected := [204, 200] }
  return ()

end Client

end ObjectStore
