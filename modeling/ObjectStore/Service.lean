/-!
# Storage services

Services that speak the protocol differ in their host and in the names of their headers.
A profile collects what differs.
-/

namespace ObjectStore

/-- What distinguishes one storage service from another. -/
structure ServiceProfile where
  name : String := "s3"
  defaultHost : String := "s3.amazonaws.com"
  /-- How the service's own headers begin. -/
  headerStart : String := "x-amz-"
  /-- How headers with user metadata begin. -/
  metadataStart : String := "x-amz-meta-"
  signatureIdentifier : String := "AWS"
  deriving Repr, DecidableEq

namespace ServiceProfile

def amazonS3 : ServiceProfile := {}

def header (p : ServiceProfile) (suffix : String) : String := p.headerStart ++ suffix

end ServiceProfile

/-- The host of the other storage platform that speaks the protocol, with fewer features. -/
def secondaryHost : String := "storage.googleapis.com"

end ObjectStore
