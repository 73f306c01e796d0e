import ObjectStore.Client
import ObjectStore.Settings.Environment
import ObjectStore.Upload.File
import ObjectStore.Yaml.Document
/-!
# Profiles

A profile says how to reach one service and as whom.  It is written down in a document, whose
missing fields take their defaults, or in variables of the environment.  **`Profile.client`
decides whether a profile describes a client:** its keys come in pairs and its endpoint is a
host, with or without one of the two schemes in front.
-/

namespace ObjectStore

/-- Connection and identity settings for one service. -/
structure Profile where
  endpoint : String := ({} : Endpoint).host
  region : String := "us-east-1"
  accessKey : Option String := none
  secretKey : Option String := none
  sessionToken : Option String := none
  userToken : Option String := none
  productToken : Option String := none
  virtualPath : String := ""
  httpPort : UInt16 := 80
  httpsPort : UInt16 := 443
  httpsOnly : Bool := true
  disableDnsBuckets : Bool := false
  storageClasses : Option Bool := none
  serverSideEncryption : Option Bool := none
  requesterPays : Bool := false
  retryMax : UInt32 := 5
  requestTimeout : UInt64 := 300
  verifyTag : Bool := true
  insecureTls : Bool := false
  deriving Repr, DecidableEq

namespace Profile

/-! ### In a document -/

def fieldNames : List String :=
  ["endpoint", "region", "access_key", "secret_key", "session_token", "devpay_user_token",
    "devpay_product_token", "virtual_path", "http_port", "https_port", "https_only",
    "disable_dns_buckets", "enable_storage_classes", "enable_server_side_encryption",
    "requester_pays", "retry_max", "request_timeout", "verify_put_etag", "insecure_tls"]

open Yaml Yaml.Value in
def read? (v : Value) : Option Profile := do
  let fields ← fields? fieldNames v
  let d : Profile := {}
  let text (name : String) (default : String) := field fields name text? default
  let optional (name : String) := field fields name (optional? text?) none
  let switch (name : String) (default : Bool) := field fields name switch? default
  let optionalSwitch (name : String) := field fields name (optional? switch?) none
  let number (name : String) (bound default : Nat) :=
    field fields name (number? bound) default
  return {
    endpoint := ← text "endpoint" d.endpoint
    region := ← text "region" d.region
    accessKey := ← optional "access_key"
    secretKey := ← optional "secret_key"
    sessionToken := ← optional "session_token"
    userToken := ← optional "devpay_user_token"
    productToken := ← optional "devpay_product_token"
    virtualPath := ← text "virtual_path" d.virtualPath
    httpPort := (← number "http_port" UInt16.size d.httpPort.toNat).toUInt16
    httpsPort := (← number "https_port" UInt16.size d.httpsPort.toNat).toUInt16
    httpsOnly := ← switch "https_only" d.httpsOnly
    disableDnsBuckets := ← switch "disable_dns_buckets" d.disableDnsBuckets
    storageClasses := ← optionalSwitch "enable_storage_classes"
    serverSideEncryption := ← optionalSwitch "enable_server_side_encryption"
    requesterPays := ← switch "requester_pays" d.requesterPays
    retryMax := (← number "retry_max" UInt32.size d.retryMax.toNat).toUInt32
    requestTimeout := (← number "request_timeout" UInt64.size d.requestTimeout.toNat).toUInt64
    verifyTag := ← switch "verify_put_etag" d.verifyTag
    insecureTls := ← switch "insecure_tls" d.insecureTls }

/-! ### In the environment -/

def variableNames : List String :=
  ["AWS_ACCESS_KEY_ID", "AWS_SECRET_ACCESS_KEY", "AWS_SESSION_TOKEN", "AWS_REGION",
    "S3_ENDPOINT", "S3_VIRTUAL_PATH", "S3_HTTPS_ONLY", "S3_DISABLE_DNS_BUCKETS",
    "S3_REQUESTER_PAYS", "S3_RETRY_MAX", "S3_DEVPAY_USER_TOKEN", "S3_DEVPAY_PRODUCT_TOKEN"]

def ofEnvironment (e : Environment) : Except SettingsFault Profile := do
  let d : Profile := {}
  let httpsOnly ← e.switch? "S3_HTTPS_ONLY"
  let disableDnsBuckets ← e.switch? "S3_DISABLE_DNS_BUCKETS"
  let requesterPays ← e.switch? "S3_REQUESTER_PAYS"
  let retryMax ← e.number? "S3_RETRY_MAX" UInt32.size
  return { d with
    endpoint := (e.value? "S3_ENDPOINT").getD d.endpoint
    region := (e.value? "AWS_REGION").getD d.region
    accessKey := e.value? "AWS_ACCESS_KEY_ID"
    secretKey := e.value? "AWS_SECRET_ACCESS_KEY"
    sessionToken := e.value? "AWS_SESSION_TOKEN"
    userToken := e.value? "S3_DEVPAY_USER_TOKEN"
    productToken := e.value? "S3_DEVPAY_PRODUCT_TOKEN"
    virtualPath := (e.value? "S3_VIRTUAL_PATH").getD d.virtualPath
    httpsOnly := httpsOnly.getD d.httpsOnly
    disableDnsBuckets := disableDnsBuckets.getD d.disableDnsBuckets
    requesterPays := requesterPays.getD d.requesterPays
    retryMax := (retryMax.map Nat.toUInt32).getD d.retryMax }

/-! ### As a client -/

/-- The credentials of a profile: both keys or none. -/
def credentials (p : Profile) : Except SettingsFault Credentials :=
  match p.accessKey, p.secretKey, p.sessionToken with
  | none, none, none => .ok .anonymous
  | some access, some secret, none => .ok (.keyPair access secret)
  | some access, some secret, some token => .ok (.session access secret token)
  | none, none, some _ => .error .tokenWithoutKeys
  | _, _, _ => .error .halfPair

/-- The host of a profile, and whether it is spoken to over a secured connection.  A scheme in
front of the host can take that back but not demand it. -/
def host (p : Profile) : Except SettingsFault (String × Bool) := do
  let (host, httpsOnly) ←
    match Text.cutMark? [':', '/', '/'] p.endpoint.toList with
    | none => pure (p.endpoint.toList, p.httpsOnly)
    | some (scheme, host) =>
      if String.ofList scheme = "https" then pure (host, p.httpsOnly)
      else if String.ofList scheme = "http" then pure (host, false)
      else throw (.scheme (String.ofList scheme))
  match Text.trimEnd (· = '/') host with
  | [] => throw .noHost
  | cs => return (String.ofList cs, httpsOnly)

def client (p : Profile) : Except SettingsFault ClientConfig := do
  let credentials ← p.credentials
  let (host, httpsOnly) ← p.host
  return {
    endpoint :=
      { host, virtualPath := p.virtualPath, httpPort := p.httpPort, httpsPort := p.httpsPort,
        httpsOnly, disableDnsBuckets := p.disableDnsBuckets, storageClasses := p.storageClasses,
        serverSideEncryption := p.serverSideEncryption }
    credentials
    tokens := { user := p.userToken, product := p.productToken }
    requesterPays := p.requesterPays
    region := some p.region
    retryMax := p.retryMax
    verifyTag := p.verifyTag
    requestTimeout := p.requestTimeout
    insecureTls := p.insecureTls }

end Profile

end ObjectStore
