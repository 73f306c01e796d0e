import ObjectStore.Client
import ObjectStore.Digest.Base64
import ObjectStore.Digest.Md5
import ObjectStore.Object.Deletion
import ObjectStore.Object.Properties
/-!
# Objects of a client

Storing, fetching, copying and deleting objects.  Each operation sends at most one request,
and none if its arguments are refused.
-/

namespace ObjectStore.Client

/-- The metadata of a new object: its own, with the headers for storage class, encryption and
access.  What the host does not support is left out. -/
def newObjectMetadata (c : Client) (props : ObjectProperties) : Metadata :=
  let m := props.metadata
  let m :=
    match props.storageClass with
    | some s =>
      if c.endpoint.storageClassesEnabled then m.insert (c.profile.header "storage-class") s
      else m
    | none => m
  let m :=
    match props.encryption with
    | some e =>
      if c.endpoint.encryptionEnabled then
        let m := m.insert (c.profile.header "server-side-encryption") e.algorithm
        match e.keyId with
        | some id => m.insert (c.profile.header "server-side-encryption-aws-kms-key-id") id
        | none => m
      else m
    | none => m
  match props.acl with
  | some acl => m.insert (c.profile.header "acl") acl.name
  | none => m

def md5Header (body : Bytes) : String := Digest.base64 (Digest.md5 body)

def withMfa (c : Client) (mfa : Option MfaToken) (d : Descriptor) : Descriptor :=
  match mfa with
  | some t => d.header (c.profile.header "mfa") t.text
  | none => d

/-! ### Storing -/

def putDescriptor (c : Client) (bucket key : String) (data : Bytes) (props : ObjectProperties) :
    Descriptor :=
  let m := c.newObjectMetadata props
  let m :=
    if m.contains "content-type" then m else m.insert "content-type" "application/octet-stream"
  { method := .put, bucket := some bucket, key := some key,
    metadata := m.insert "content-md5" (md5Header data),
    body := .ofBytes data, digest := some .unsigned }

/-- Whether an entity tag is the MD5 digest of what was stored.  A tag with a dash belongs to
an object of several parts and is no digest. -/
def tagMatches (data : Bytes) (etag : String) : Bool :=
  etag.toList.contains '-' || lowerCase etag = hexText (Digest.md5 data)

def putObject (c : Client) (bucket key : String) (data : Bytes) (props : ObjectProperties) :
    Operation PutResult := do
  let r ← c.dispatchAndDrain (c.putDescriptor bucket key data props)
  let result : PutResult :=
    { etag := (r.header? "etag").map trimQuotes,
      versionId := r.header? "x-amz-version-id",
      lastModified := r.header? "last-modified" }
  let managed := (props.encryption.map Encryption.isManaged).getD false
  match result.etag with
  | some etag =>
    if c.verifyTag && !managed && !tagMatches data etag then
      throw (.protocol { bucket := some bucket, key := some key }
        (.digestMismatch etag (hexText (Digest.md5 data))))
    else return result
  | none => return result

/-! ### Fetching -/

def getObject (c : Client) (bucket key : String) (versionId : Option String) :
    Operation GetResult := do
  let r ← c.dispatch
    { method := .get, bucket := some bucket, key := some key,
      query := Query.empty.setOrRemove "versionId" versionId }
  match r.body.collect with
  | .error f => throw (.transport f)
  | .ok body =>
    return {
      body,
      contentType := r.header? "content-type",
      etag := (r.header? "etag").map trimQuotes,
      lastModified := r.header? "last-modified",
      versionId := r.header? "x-amz-version-id",
      metadata := Metadata.ofHeaders c.profile r.headers }

/-! ### Copying -/

/-- The header value that names the source of a copy. -/
def copySource (bucket key : String) (versionId : Option String) : String :=
  let name := Percent.encodeKey (bucket ++ "/" ++ key)
  match versionId with
  | some v => Percent.append (name ++ "?versionId=") v
  | none => name

def copyMetadata (c : Client) (source : String) (props : Option ObjectProperties) : Metadata :=
  let m :=
    match props with
    | some props =>
      (c.newObjectMetadata props).insert (c.profile.header "metadata-directive") "REPLACE"
    | none => Metadata.empty
  m.insert (c.profile.header "copy-source") source

def copyObject (c : Client) (source : ObjectName) (sourceBucket bucket key : String)
    (props : Option ObjectProperties) : Operation ObjectCopy := do
  let value := copySource sourceBucket source.key source.versionId
  let d : Descriptor :=
    { method := .put, bucket := some bucket, key := some key,
      metadata := c.copyMetadata value props }
  let r ← c.dispatch d
  let outcome ← Operation.lift
    (readBody .copyObject d.context (CopyResult.read "CopyObjectResult") r)
  let result ← Operation.lift (succeed d.context outcome)
  return { etag := result.etag, lastModified := result.lastModified,
           versionId := r.header? "x-amz-version-id" }

/-! ### Deleting -/

def deleteObject (c : Client) (bucket key : String) (versionId : Option String)
    (mfa : Option MfaToken) : Operation Unit := do
  let _ ← c.dispatchAndDrain (c.withMfa mfa
    { method := .delete, bucket := some bucket, key := some key,
      query := Query.empty.setOrRemove "versionId" versionId, expected := [204, 200] })
  return ()

/-- A request that carries a document to a bucket. -/
def documentDescriptor (method : Http.Method) (bucket flag document : String) : Descriptor :=
  let body := utf8 document
  { method, bucket := some bucket, query := Query.empty.flag flag,
    metadata := (Metadata.empty.insert "content-type" "application/xml").insert "content-md5"
      (md5Header body),
    body := .ofBytes body }

def maxDeletions : Nat := 1000

/-- Delete many objects in one request; no objects need no request. -/
def deleteObjects (c : Client) (bucket : String) (objects : List ObjectName) (quiet : Bool)
    (mfa : Option MfaToken) : Operation DeletionResult :=
  if objects.isEmpty then return {}
  else if maxDeletions < objects.length then
    throw (.invalidArgument (.tooManyKeys objects.length maxDeletions))
  else
    c.fetch (c.withMfa mfa
      (documentDescriptor .post bucket "delete" (deletionRequest objects quiet)))
      .multiDelete DeletionResult.read

end ObjectStore.Client
