import ObjectStore.Dialogue
import ObjectStore.Listing.Pager
import ObjectStore.Request
import ObjectStore.Upload.Documents
/-!
# Clients

A client knows its server, its identity and its habits.  An operation of a client is a
dialogue: it sends requests and is answered with responses or with the fault of the exchange.

`Client.dispatch` is how every operation sends: a response with an unexpected status becomes
the failure that its body describes.
-/

namespace ObjectStore

structure ClientConfig where
  endpoint : Endpoint := {}
  credentials : Credentials := .anonymous
  tokens : ProductTokens := {}
  requesterPays : Bool := false
  region : Option String := none
  /-- How many transient faults in a row a listing puts up with. -/
  retryMax : UInt32 := 5
  /-- Whether the digest of uploaded data is compared with the entity tag returned. -/
  verifyTag : Bool := true
  /-- Seconds to wait for a response. -/
  requestTimeout : UInt64 := 300
  /-- Whether certificates go unchecked. -/
  insecureTls : Bool := false

structure Client where
  endpoint : Endpoint
  identity : Identity
  signer : Option Signer
  retryMax : Nat
  verifyTag : Bool
  /-- The time at which requests are signed. -/
  now : Moment
  /-- How many answers a listing waits for before it is left unfinished. -/
  pageBudget : Nat := 1000000000000000

/-- A dialogue of requests and responses that may fail. -/
abbrev Operation (α : Type) : Type :=
  ExceptT Fault (Dialogue Http.Request (Except Fault Http.Response)) α

namespace Operation

def send (r : Http.Request) : Operation Http.Response :=
  ExceptT.mk (Dialogue.question r)

/-- Fail or go on without sending anything. -/
def lift {α : Type} (e : Except Fault α) : Operation α := ExceptT.mk (.done e)

end Operation

namespace Client

def ofConfig (c : ClientConfig) (now : Moment) : Client :=
  { endpoint := c.endpoint,
    identity := { credentials := c.credentials, tokens := c.tokens,
                  requesterPays := c.requesterPays },
    signer := c.credentials.signingKeys?.map fun (access, secret) =>
      { accessKey := access, secretKey := secret, region := c.region.getD "us-east-1" },
    retryMax := c.retryMax.toNat,
    verifyTag := c.verifyTag,
    now }

/-- The client with another host; what the host decides follows it. -/
def setHost (c : Client) (host : String) : Client :=
  { c with endpoint := { c.endpoint with host } }

def profile (c : Client) : ServiceProfile := c.endpoint.profile

def sender (c : Client) : Sender :=
  { endpoint := c.endpoint, identity := c.identity, signer := c.signer }

/-! ### Sending -/

/-- The failure that a response with an unexpected status means. -/
def failure (context : Context) (r : Http.Response) : Fault :=
  match r.body.collect with
  | .error f => .unexpectedStatus r.status context ("error body unreadable: " ++ f.message)
  | .ok body =>
    match ServiceFailure.read r.status body with
    | .ok f => .service { f with context }
    | .error _ =>
      let text := (Text.Utf8.decodeLossy body).toList.take 512
      .unexpectedStatus r.status context (String.ofList text)

def accept (d : Descriptor) (r : Http.Response) : Except Fault Http.Response :=
  if d.expected.contains r.status then .ok r else .error (failure d.context r)

def dispatch (c : Client) (d : Descriptor) : Operation Http.Response := do
  let r ← Operation.send (c.sender.build c.now d)
  Operation.lift (accept d r)

/-- Send what a descriptor asks for and leave the body of the response unread. -/
def dispatchAndDrain (c : Client) (d : Descriptor) : Operation Http.Response := do
  let r ← c.dispatch d
  match r.body.collect with
  | .error f => throw (.transport f)
  | .ok _ => return r

def readBody {α : Type} (shape : Shape) (context : Context)
    (read : Bytes → Except Xml.Fault α) (r : Http.Response) : Except Fault α :=
  match r.body.collect with
  | .error f => .error (.parse shape context (.input f))
  | .ok body => (read body).mapError fun f => .parse shape context (.malformed f)

def fetch {α : Type} (c : Client) (d : Descriptor) (shape : Shape)
    (read : Bytes → Except Xml.Fault α) : Operation α := do
  let r ← c.dispatch d
  Operation.lift (readBody shape d.context read r)

def succeed {α : Type} (context : Context) : Outcome α → Except Fault α
  | .success value => .ok value
  | .failed f => .error (.service { f with context })

end Client

end ObjectStore
