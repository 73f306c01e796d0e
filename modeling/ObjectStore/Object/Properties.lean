import ObjectStore.Metadata
/-!
# Properties of objects

What an object is given when it is stored, and what the service says of an object.
-/

namespace ObjectStore

/-- Access rules that the service knows by name. -/
inductive CannedAcl where
  | privateAccess
  | publicRead
  | publicReadWrite
  | authenticatedRead
  | bucketOwnerRead
  | bucketOwnerFullControl
  deriving Repr, DecidableEq

def CannedAcl.name : CannedAcl → String
  | .privateAccess => "private"
  | .publicRead => "public-read"
  | .publicReadWrite => "public-read-write"
  | .authenticatedRead => "authenticated-read"
  | .bucketOwnerRead => "bucket-owner-read"
  | .bucketOwnerFullControl => "bucket-owner-full-control"

/-- How the server encrypts an object. -/
structure Encryption where
  algorithm : String
  keyId : Option String := none
  deriving Repr, DecidableEq

/-- Whether the service's key manager encrypts; the entity tag is then no digest. -/
def Encryption.isManaged (e : Encryption) : Bool := e.algorithm = "aws:kms"

structure ObjectProperties where
  metadata : Metadata := Metadata.empty
  acl : Option CannedAcl := none
  storageClass : Option String := none
  encryption : Option Encryption := none

/-- A serial number and the current code of a second factor. -/
structure MfaToken where
  serialNumber : String
  code : String
  deriving Repr, DecidableEq

def MfaToken.text (t : MfaToken) : String := t.serialNumber ++ " " ++ t.code

structure PutResult where
  etag : Option String
  versionId : Option String
  lastModified : Option String
  deriving Repr, DecidableEq

structure GetResult where
  body : Bytes
  contentType : Option String
  etag : Option String
  lastModified : Option String
  versionId : Option String
  metadata : Metadata

structure ObjectCopy where
  etag : String
  lastModified : Option String
  versionId : Option String
  deriving Repr, DecidableEq

end ObjectStore
