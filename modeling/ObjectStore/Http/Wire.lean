import ObjectStore.Fault
import ObjectStore.Text.Cut
import ObjectStore.Text.Number
import ObjectStore.Text.Utf8
import ObjectStore.Text.Blank
/-!
# Messages on the wire

A request is sent to the authority of its URL with the rest of the URL as its target.  **A
request that cannot be written is refused before anything is sent:** its authority, its target
and its headers have to consist of the characters that they may have.

A response is read from all the bytes that the server sent before it closed the connection.  A
body that is shorter than announced counts as broken off.
-/

namespace ObjectStore.Http

/-! ### Routes -/

structure Route where
  secure : Bool
  /-- The host, with a port if one is written. -/
  authority : String
  /-- The path and the query. -/
  target : String
  deriving Repr, DecidableEq

/-- The route of a URL, of which a fragment at the end is no part. -/
def Route.ofUrl (url : String) : Route :=
  let (scheme, rest) := (Text.cutMark? [':', '/', '/'] url.toList).getD ([], url.toList)
  let (authority, rest) := rest.span fun c => c ≠ '/' && c ≠ '?' && c ≠ '#'
  let target := rest.takeWhile (· ≠ '#')
  { secure := String.ofList scheme = "https", authority := String.ofList authority,
    target := String.ofList (if target.head? = some '/' then target else '/' :: target) }

def Route.port (r : Route) : Nat :=
  match Text.cutText ':' r.authority with
  | (_, some port) => (Text.readDecimal 65536 port).toOption.getD 80
  | (_, none) => if r.secure then 443 else 80

def Route.host (r : Route) : String := (Text.cutText ':' r.authority).1

/-! ### What can be written -/

def isAuthorityChar (c : Char) : Bool := c.isAlphanum || "!$&'()*+,-.:;=@[]_~%".toList.contains c

/-- The characters of a path; most of them need not be percent-encoded. -/
def isPathChar (c : Char) : Bool :=
  c = '!' || c = '"' || ('$' ≤ c && c ≤ ';') || c = '=' || ('@' ≤ c && c ≠ Char.ofNat 0x60)

def isQueryChar (c : Char) : Bool := c = '!' || ('$' ≤ c && c ≤ ';') || c = '=' || '?' ≤ c

def isNameChar (c : Char) : Bool :=
  c.isAlphanum || "!#$%&'*+-.^_|~".toList.contains c || c = Char.ofNat 0x60

def isValueChar (c : Char) : Bool := c = '\t' || (0x20 ≤ c.toNat && c.toNat ≠ 0x7F)

/-- Refuse an authority that no connection can be made to. -/
def checkAuthority (authority : String) : Except HttpFault Unit :=
  let cs := authority.toList
  if !cs.all isAuthorityChar then .error .uri
  else if cs.contains '%' || 1 < cs.count ':' then .error .authority
  else .ok ()

/-- Refuse a target with characters that have to be percent-encoded. -/
def checkTarget (target : String) : Except HttpFault Unit :=
  let (path, query) := Text.cut '?' target.toList
  if path.all isPathChar && (query.getD []).all isQueryChar then .ok () else .error .uri

/-- Refuse a header that is not made of the characters it may have. -/
def checkHeader (h : String × String) : Except HttpFault Unit :=
  if h.1.isEmpty || !h.1.toList.all isNameChar then .error .headerName
  else if !h.2.toList.all isValueChar then .error .headerValue
  else .ok ()

def trimValue (value : String) : String :=
  String.ofList (Text.trimBoth (fun c => c = ' ' || c = '\t') value.toList)

/-- The headers of a request as they are sent, the host among them. -/
def Request.sentHeaders (q : Request) : Except HttpFault (Table String) := do
  let route := Route.ofUrl q.url
  checkAuthority route.authority
  checkTarget route.target
  let headers := q.headers.erase "host"
  headers.entries.forM checkHeader
  return Table.ofList
    (("host", route.authority) :: headers.entries.map fun (name, value) => (name, trimValue value))

/-- The bytes of a request, after which the connection is to be closed. -/
def Request.encode (q : Request) (headers : Table String) (body : Bytes) : Bytes :=
  let target := (Route.ofUrl q.url).target
  let head := q.method.text ++ " " ++ target ++ " HTTP/1.1\r\n" ++
    String.join (headers.entries.map fun (name, value) => name ++ ": " ++ value ++ "\r\n") ++
    "connection: close\r\n\r\n"
  utf8 head ++ body

/-! ### Responses -/

/-- Whether a response with the status has a body. -/
def hasBody (status : Nat) : Bool := 200 ≤ status && status ≠ 204 && status ≠ 304

/-- A response as it is received: values without blanks at their ends, and a body only where
the status admits one. -/
def Response.received (r : Response) : Response :=
  { r with
    headers := r.headers.map fun (name, value) => (name, trimValue value)
    body := if hasBody r.status then r.body else { pieces := [] } }

def readHeader? (line : String) : Option (String × String) :=
  match Text.cutText ':' line with
  | (name, some value) =>
    some (String.ofList (name.toList.map Char.toLower), value)
  | (_, none) => none

def readStatus? (line : String) : Option Nat :=
  match Text.splitText ' ' line with
  | version :: status :: _ =>
    if (Text.afterStart? "HTTP/1." version).isSome then
      (Text.readDecimal 1000 status).toOption
    else none
  | _ => none

/-- A body that is sent in chunks, each behind its length; a chunk of no bytes ends it. -/
def readChunks : Nat → Bytes → Option (List Bytes)
  | 0, _ => none
  | fuel + 1, b => do
    let (line, rest) ← Text.cutMark? [13, 10] b
    let digits := (Text.Utf8.decodeLossy line).toList.takeWhile fun c => c ≠ ';'
    let size ← (Text.readDigits 16 UInt64.size (Text.trimBoth Text.isBlank digits)).toOption
    if size = 0 then return []
    else if rest.length < size then none
    else
      let more ← readChunks fuel (rest.drop (size + 2))
      return rest.take size :: more

def readBody (headers : List (String × String)) (b : Bytes) : Stream :=
  if (headers.lookup "transfer-encoding").any
      fun v => String.ofList ((trimValue v).toList.map Char.toLower) = "chunked" then
    match readChunks (b.length + 1) b with
    | some pieces => { pieces }
    | none => { pieces := [], fault := some .connectionReset }
  else
    match (headers.lookup "content-length").bind fun v =>
      (Text.readDecimal UInt64.size (trimValue v)).toOption with
    | none => { pieces := [b] }
    | some n =>
      if b.length < n then { pieces := [b], fault := some .connectionReset }
      else { pieces := [b.take n] }

/-- The response that a server sent, if its head is complete.  Responses that only announce
another one are passed over. -/
def Response.decode? : Nat → Bytes → Option Response
  | 0, _ => none
  | fuel + 1, b => do
    let (head, rest) ← Text.cutMark? [13, 10, 13, 10] b
    let lines := (head.splitOn 10).map fun l =>
      (Text.Utf8.decodeLossy (Text.trimEnd (· = 13) l))
    let status ← lines.head?.bind readStatus?
    if status < 200 then Response.decode? fuel rest
    else
      let headers := lines.tail.filterMap readHeader?
      return received { status, headers, body := readBody headers rest }

end ObjectStore.Http
