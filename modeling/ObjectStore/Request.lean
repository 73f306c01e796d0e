import ObjectStore.Endpoint
import ObjectStore.Fault
import ObjectStore.Identity
import ObjectStore.Query
import ObjectStore.Signature
/-!
# Requests

An operation describes what it wants sent: method, bucket and key, parameters, metadata and
body.  `Sender.build` addresses and signs it.  **The body decides its own headers:** its
length replaces any that the metadata gives, and the digest is the given one, else the
metadata's, else the body's own.
-/

namespace ObjectStore

/-- What an operation wants sent. -/
structure Descriptor where
  method : Http.Method
  bucket : Option String := none
  key : Option String := none
  query : Query := Query.empty
  metadata : Metadata := Metadata.empty
  body : Http.Body := .empty
  /-- Takes the place of the digest that the body would have. -/
  digest : Option PayloadDigest := none
  /-- The statuses that mean success. -/
  expected : List Nat := [200]

namespace Descriptor

def header (d : Descriptor) (name value : String) : Descriptor :=
  { d with metadata := d.metadata.insert name value }

def context (d : Descriptor) : Context :=
  { bucket := d.bucket, key := d.key, uploadId := d.query.get? "uploadId" }

end Descriptor

/-- The digest of a body that nobody gave one for. -/
def Http.Body.defaultDigest : Http.Body → PayloadDigest
  | .empty => .empty
  | .buffered b => .ofBytes b
  | .stream _ _ => .unsigned

/-- What addresses and signs requests; without a signer access is anonymous. -/
structure Sender where
  endpoint : Endpoint
  identity : Identity
  signer : Option Signer

namespace Sender

def digestOf (d : Descriptor) (headers : Table String) : PayloadDigest :=
  match d.digest, headers.get? Metadata.payloadDigestName with
  | some digest, _ => digest
  | none, some value => .provided value
  | none, none => d.body.defaultDigest

/-- Give the headers the length of the body; only PUT and POST send a length of zero. -/
def withLength (d : Descriptor) (headers : Table String) : Table String :=
  if d.body.length = 0 ∧ d.method ≠ .put ∧ d.method ≠ .post then
    headers.erase "content-length"
  else headers.insert "content-length" (toString d.body.length)

def unsignedHeaders (s : Sender) (d : Descriptor) : Table String :=
  let headers := d.metadata.toHeaders s.endpoint.profile
  (withLength d (headers.erase Metadata.payloadDigestName)).insertAll s.identity.headers.entries

def build (s : Sender) (now : Moment) (d : Descriptor) : Http.Request :=
  let url := (s.endpoint.resolve d.bucket d.key).url d.query.text
  let headers := s.unsignedHeaders d
  let digest := digestOf d (d.metadata.toHeaders s.endpoint.profile)
  { method := d.method, url, body := d.body,
    headers :=
      match s.signer with
      | some signer => signer.sign d.method.text url headers digest now
      | none => headers }

end Sender

end ObjectStore
