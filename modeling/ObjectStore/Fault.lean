import ObjectStore.Http.Message
import ObjectStore.Http.Status
import ObjectStore.Xml.Fault
/-!
# Why an operation fails

Every failure of an operation is one `Fault`: a cause with what it needs for its wording.
`message` is that wording.  **Only faults of the network are transient:** a failed exchange,
or a body that broke off while a document was read from it.
-/

namespace ObjectStore

/-- The bucket, key and upload that an operation was about. -/
structure Context where
  bucket : Option String := none
  key : Option String := none
  uploadId : Option String := none
  deriving Repr, DecidableEq

def Context.message (c : Context) : String :=
  "bucket=" ++ c.bucket.getD "-" ++
    (match c.key with
      | some key => " key=" ++ key
      | none => "") ++
    (match c.uploadId with
      | some id => " upload_id=" ++ id
      | none => "")

/-- An error that the service reports in a document of its own. -/
structure ServiceFailure where
  /-- The status of the response, which may be a success status. -/
  status : Nat := 0
  code : String := ""
  text : String := ""
  requestId : Option String := none
  hostId : Option String := none
  resource : Option String := none
  context : Context := {}
  deriving Repr, DecidableEq

def ServiceFailure.message (f : ServiceFailure) : String :=
  s!"{f.status} {f.code}: {f.text} ({f.context.message})" ++
    (match f.requestId with
      | some id => " request_id=" ++ id
      | none => "")

inductive Shape where
  | listObjects
  | listVersions
  | listUploads
  | listParts
  | initiation
  | completion
  | copyPart
  | copyObject
  | versioning
  | lifecycle
  | acceleration
  | notification
  | requestPayment
  | location
  | multiDelete
  | raw
  deriving Repr, DecidableEq

def Shape.name : Shape → String
  | .listObjects => "ListBucketResult"
  | .listVersions => "ListVersionsResult"
  | .listUploads => "ListMultipartUploadsResult"
  | .listParts => "ListPartsResult"
  | .initiation => "InitiateMultipartUploadResult"
  | .completion => "CompleteMultipartUploadResult"
  | .copyPart => "CopyPartResult"
  | .copyObject => "CopyObjectResult"
  | .versioning => "VersioningConfiguration"
  | .lifecycle => "LifecycleConfiguration"
  | .acceleration => "AccelerateConfiguration"
  | .notification => "NotificationConfiguration"
  | .requestPayment => "RequestPaymentConfiguration"
  | .location => "LocationConstraint"
  | .multiDelete => "DeleteResult"
  | .raw => "raw body"

/-- Why a response body did not become what was expected. -/
inductive ReadFault where
  | input (fault : InputFault)
  | malformed (fault : Xml.Fault)
  deriving Repr, DecidableEq

def ReadFault.message : ReadFault → String
  | .input f => "I/O error while reading response body: " ++ f.message
  | .malformed f => "malformed document: " ++ f.message

/-- Arguments that no request can be made from. -/
inductive Misuse where
  | partNumber (number limit : Nat)
  | openRange
  | noParts
  | repeatedPart (number : Nat)
  | tooManyParts (size partSize parts limit : Nat)
  | tooManyKeys (count limit : Nat)
  | noBucket
  | stated (reason : String)
  deriving Repr, DecidableEq

def Misuse.message : Misuse → String
  | .partNumber number limit => s!"part number {number} outside 1..={limit}"
  | .openRange => "copy range needs both a start and an end byte position"
  | .noParts => "cannot complete a multipart upload without parts"
  | .repeatedPart number => s!"duplicate part number {number} in completion list"
  | .tooManyParts size partSize parts limit =>
    s!"{size} bytes in parts of {partSize} needs {parts} parts, more than {limit}"
  | .tooManyKeys count limit => s!"cannot delete more than {limit} objects at once, got {count}"
  | .noBucket => "listing multipart uploads requires a bucket name"
  | .stated reason => reason

/-- Responses that break the rules of the protocol. -/
inductive Violation where
  | noNextMarker (listing : String)
  | noAdvance (listing : String)
  | digestMismatch (etag digest : String)
  | noEntityTag
  deriving Repr, DecidableEq

def Violation.message : Violation → String
  | .noNextMarker listing => s!"{listing} listing reported truncated without a next marker"
  | .noAdvance listing => s!"{listing} listing next marker did not advance"
  | .digestMismatch etag digest => s!"ETag {etag} does not match MD5 {digest} of uploaded data"
  | .noEntityTag => "part upload response has no ETag"

inductive HttpFault where
  | headerName
  | headerValue
  | uri
  | authority
  deriving Repr, DecidableEq

def HttpFault.message : HttpFault → String
  | .headerName => "invalid HTTP header name"
  | .headerValue => "failed to parse header value"
  | .uri => "invalid uri character"
  | .authority => "invalid authority"

inductive Fault where
  | invalidArgument (misuse : Misuse)
  | transport (cause : InputFault)
  | parse (shape : Shape) (context : Context) (cause : ReadFault)
  | service (failure : ServiceFailure)
  | unexpectedStatus (status : Nat) (context : Context) (text : String)
  | protocol (context : Context) (violation : Violation)
  | completionFailed (context : Context) (failure : ServiceFailure)
  | invalidState (uploadId state operation : String)
  | http (cause : HttpFault)
  | input (cause : InputFault)
  deriving Repr, DecidableEq

namespace Fault

def message : Fault → String
  | .invalidArgument m => "Invalid argument: " ++ m.message
  | .transport c => "Transport error: " ++ c.message
  | .parse shape context cause =>
    s!"Failed to parse {shape.name} ({context.message}): {cause.message}"
  | .service f => "S3 error: " ++ f.message
  | .unexpectedStatus status context text =>
    s!"Unexpected status {Http.statusText status} ({context.message}): {text}"
  | .protocol context v => s!"Protocol violation ({context.message}): {v.message}"
  | .completionFailed context f =>
    s!"Multipart completion failed ({context.message}): {f.message}"
  | .invalidState uploadId state operation =>
    s!"Multipart upload {uploadId} is {state}, cannot {operation}"
  | .http c => "HTTP error: " ++ c.message
  | .input c => "I/O error: " ++ c.message

def causes : Fault → List String
  | .transport c => [c.message]
  | .parse _ _ (.input c) => [(ReadFault.input c).message, c.message]
  | .parse _ _ cause => [cause.message]
  | .http c => [c.message]
  | .input c => [c.message]
  | _ => []

/-- Whether the network is to blame, so that the same request may succeed later. -/
def isTransient : Fault → Bool
  | .transport _ => true
  | .parse _ _ (.input _) => true
  | _ => false

def serviceCode? : Fault → Option String
  | .service f => some f.code
  | .completionFailed _ f => some f.code
  | _ => none

end Fault

end ObjectStore
