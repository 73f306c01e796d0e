import ObjectStore.Metadata
import ObjectStore.Percent
import ObjectStore.Text.Blank
/-!
# Where requests go

A bucket and a key become a scheme, a host, a port and a path.  A bucket whose name can be
part of a host name goes in front of the host; any other bucket is the first segment of the
path.  The path is percent-encoded here, once, and both the URL and the signature use it as
it is.
-/

namespace ObjectStore

inductive Scheme where
  | http
  | https
  deriving Repr, DecidableEq

def Scheme.name : Scheme → String
  | .http => "http"
  | .https => "https"

def Scheme.defaultPort : Scheme → UInt16
  | .http => 80
  | .https => 443

/-- How a client reaches its server. -/
structure Endpoint where
  /-- The host, without a scheme. -/
  host : String := "s3.amazonaws.com"
  /-- A path on the server below which the service is found. -/
  virtualPath : String := ""
  httpPort : UInt16 := 80
  httpsPort : UInt16 := 443
  httpsOnly : Bool := true
  /-- Never put a bucket into the host name. -/
  disableDnsBuckets : Bool := false
  /-- Whether storage classes are sent; by default the host decides. -/
  storageClasses : Option Bool := none
  /-- Whether encryption is asked for; by default the host decides. -/
  serverSideEncryption : Option Bool := none
  profile : ServiceProfile := {}
  deriving Repr, DecidableEq

structure Address where
  scheme : Scheme
  host : String
  port : UInt16
  /-- The path, already percent-encoded. -/
  path : String
  deriving Repr, DecidableEq

def Address.url (a : Address) (query : String) : String :=
  a.scheme.name ++ "://" ++ a.host ++
    (if a.port = a.scheme.defaultPort then "" else ":" ++ toString a.port.toNat) ++
    a.path ++ (if query.isEmpty then "" else "?" ++ query)

/-! ### Bucket names -/

def isHostChar (c : Char) : Bool :=
  ('a' ≤ c && c ≤ 'z') || ('0' ≤ c && c ≤ '9') || c = '.' || c = '-'

/-- Whether a name is written like an address of four numbers. -/
def looksLikeAddress (labels : List (List Char)) : Bool :=
  labels.length = 4 && labels.all fun l => !l.isEmpty && l.all Char.isDigit

def isLabel (l : List Char) : Bool :=
  !l.isEmpty && l.head? ≠ some '-' && l.getLast? ≠ some '-'

/-- Whether a bucket name can stand in front of the host. -/
def isHostBucket (name : String) : Bool :=
  let cs := name.toList
  let labels := cs.splitOn '.'
  3 ≤ cs.length && cs.length ≤ 63 && cs.all isHostChar && !looksLikeAddress labels &&
    labels.all isLabel

/-! ### Resolution -/

namespace Endpoint

/-- Whether the host is the other platform, which lacks some features. -/
def isSecondary (e : Endpoint) : Bool := lowerCase e.host = secondaryHost

def storageClassesEnabled (e : Endpoint) : Bool := e.storageClasses.getD (!e.isSecondary)

def encryptionEnabled (e : Endpoint) : Bool := e.serverSideEncryption.getD (!e.isSecondary)

def scheme (e : Endpoint) : Scheme := if e.httpsOnly then .https else .http

def port (e : Endpoint) : UInt16 := if e.httpsOnly then e.httpsPort else e.httpPort

/-- The virtual path with one slash in front and none at its end; empty if it is all slashes. -/
def pathStart (e : Endpoint) : String :=
  match Text.trimBoth (· = '/') e.virtualPath.toList with
  | [] => ""
  | cs => "/" ++ String.ofList cs

/-- Where a request for a bucket and a key goes. -/
def resolve (e : Endpoint) (bucket key : Option String) : Address :=
  let encodedKey := (key.map Percent.encodeKey).getD ""
  let (host, path) :=
    match bucket with
    | none => (e.host, e.pathStart ++ "/")
    | some b =>
      if !e.disableDnsBuckets && isHostBucket b then
        (b ++ "." ++ e.host, e.pathStart ++ "/" ++ encodedKey)
      else (e.host, e.pathStart ++ "/" ++ Percent.encodeKey b ++ "/" ++ encodedKey)
  { scheme := e.scheme, host, port := e.port, path }

end Endpoint

end ObjectStore
