import ObjectStore.Calendar
import ObjectStore.Digest.Hmac
import ObjectStore.Metadata
import ObjectStore.Signature.CanonicalQuery
import ObjectStore.Text.Blank
import ObjectStore.Text.Quoted
/-!
# Signatures

Version 4 of the signature: a request is brought into a canonical form, and a key that is
derived from the secret for one day, region and service signs the digest of that form.
All headers of the request are signed.

A `Signer` derives its key anew each time.  A `CachingSigner` keeps the key of the last day;
`CachingSigner.sign` is otherwise the same.
-/

namespace ObjectStore

/-- How the payload of a request enters its signature. -/
inductive PayloadDigest where
  | empty
  | computed (hex : String)
  | unsigned
  | provided (value : String)
  deriving Repr, DecidableEq

namespace PayloadDigest

/-- The digest of a payload held in memory. -/
def ofBytes (payload : Bytes) : PayloadDigest :=
  if payload.isEmpty then .empty else .computed (hexText (Digest.sha256 payload))

/-- The value of the header that carries the digest. -/
def text : PayloadDigest → String
  | .empty => "e3b0c44298fc1c149afbf4c8996fb92427ae41e4649b934ca495991b7852b855"
  | .computed hex => hex
  | .unsigned => "UNSIGNED-PAYLOAD"
  | .provided value => value

end PayloadDigest

namespace Signature

/-! ### The parts of a URL -/

structure UrlParts where
  host : String
  path : String
  query : String
  deriving Repr, DecidableEq

def withoutScheme (url : String) : String :=
  ((Text.afterStart? "https://" url).orElse fun _ => Text.afterStart? "http://" url).getD url

/-- The authority of a URL without the port that its scheme implies. -/
def hostOf (url authority : String) : String :=
  let port := if (Text.afterStart? "https" url).isSome then ":443" else ":80"
  (Text.beforeEnd? port authority).getD authority

/-- The path begins at the first slash after the scheme, and the query after the first question mark
following it. -/
def urlParts (url : String) : UrlParts :=
  let rest := (withoutScheme url).toList
  let (authority, target) := rest.span (· ≠ '/')
  let target := if target.isEmpty then ['/'] else target
  let (path, query) := Text.cut '?' target
  { host := hostOf url (String.ofList authority), path := String.ofList path,
    query := String.ofList (query.getD []) }

/-! ### The canonical request -/

/-- One line for each header, its value without blanks at the ends. -/
def canonicalHeaders (headers : Table String) : String :=
  String.join (headers.entries.map fun h => h.1 ++ ":" ++ Text.trim h.2 ++ "\n")

def signedNames (headers : Table String) : String := ";".intercalate headers.names

/-- The text whose digest is signed. -/
def canonicalRequest (method path query : String) (headers : Table String) (digest : String) :
    String :=
  "\n".intercalate
    [method, path, canonicalQuery query, canonicalHeaders headers, signedNames headers, digest]

def algorithm : String := "AWS4-HMAC-SHA256"

/-- What a signing key is good for. -/
def scope (day region service : String) : String :=
  day ++ "/" ++ region ++ "/" ++ service ++ "/aws4_request"

/-- The text that is signed. -/
def stringToSign (moment scope canonical : String) : String :=
  "\n".intercalate [algorithm, moment, scope, hexText (Digest.sha256 (utf8 canonical))]

def signingKey (secret day region service : String) : Bytes :=
  let step (key : Bytes) (text : String) := Digest.hmacSha256 key (utf8 text)
  step (step (step (step (utf8 ("AWS4" ++ secret)) day) region) service) "aws4_request"

end Signature

/-- Who signs, and for which region. -/
structure Signer where
  accessKey : String
  secretKey : String
  region : String := "us-east-1"

namespace Signer

def service : String := "s3"

/-- A description that leaves the secret out. -/
def describe (s : Signer) : String :=
  "S3SignerV4 \x7b access_key: " ++ Text.quoted s.accessKey ++ ", region: " ++
    Text.quoted s.region ++ ", service: " ++ Text.quoted service ++ ", .. \x7d"

def dayKey (s : Signer) (day : String) : Bytes :=
  Signature.signingKey s.secretKey day s.region service

/-- The headers that are signed: the given ones with host, date and digest. -/
def signedHeaders (url : String) (headers : Table String) (digest : PayloadDigest)
    (now : Moment) : Table String :=
  ((headers.insert "host" (Signature.urlParts url).host).insert "x-amz-date" now.secondStamp).insert
    Metadata.payloadDigestName digest.text

def signWith (s : Signer) (key : Bytes) (method url : String) (headers : Table String)
    (digest : PayloadDigest) (now : Moment) : Table String :=
  let parts := Signature.urlParts url
  let all := signedHeaders url headers digest now
  let scope := Signature.scope now.dayStamp s.region service
  let canonical := Signature.canonicalRequest method parts.path parts.query all digest.text
  let text := Signature.stringToSign now.secondStamp scope canonical
  all.insert "authorization"
    (Signature.algorithm ++ " Credential=" ++ s.accessKey ++ "/" ++ scope ++
      ", SignedHeaders=" ++ Signature.signedNames all ++
      ", Signature=" ++ hexText (Digest.hmacSha256 key (utf8 text)))

def sign (s : Signer) (method url : String) (headers : Table String)
    (digest : PayloadDigest) (now : Moment) : Table String :=
  s.signWith (s.dayKey now.dayStamp) method url headers digest now

end Signer

/-- A signer that keeps the key of the last day on which it signed. -/
structure CachingSigner where
  signer : Signer
  cache : Option (String × Bytes) := none

namespace CachingSigner

/-- Another signer with the same keys, which has signed nothing. -/
def clone (s : CachingSigner) : CachingSigner := { signer := s.signer }

/-- The signing key of a day, from the cache if it is the last day's. -/
def dayKey (s : CachingSigner) (day : String) : Bytes :=
  match s.cache with
  | some (cached, key) => if cached = day then key else s.signer.dayKey day
  | none => s.signer.dayKey day

/-- The headers of a signed request, and the signer afterwards. -/
def sign (s : CachingSigner) (method url : String) (headers : Table String)
    (digest : PayloadDigest) (now : Moment) : Table String × CachingSigner :=
  let key := s.dayKey now.dayStamp
  (s.signer.signWith key method url headers digest now,
    { s with cache := some (now.dayStamp, key) })

end CachingSigner

end ObjectStore
