import ObjectStore.Table
import ObjectStore.Text.Quoted
/-!
# Who asks

An identity is the credentials of a client together with what else of it shows in every
request: product tokens and the readiness to pay.  At most one security token is sent; the
token of a session takes the place of a product's.
-/

namespace ObjectStore

inductive Credentials where
  | anonymous
  | keyPair (accessKey secretKey : String)
  | session (accessKey secretKey token : String)
  deriving DecidableEq

namespace Credentials

def signingKeys? : Credentials → Option (String × String)
  | .anonymous => none
  | .keyPair access secret => some (access, secret)
  | .session access secret _ => some (access, secret)

def isAnonymous : Credentials → Bool
  | .anonymous => true
  | _ => false

/-- A description that leaves the secrets out. -/
def describe : Credentials → String
  | .anonymous => "Anonymous"
  | .keyPair access _ => "KeyPair \x7b access_key: " ++ Text.quoted access ++ ", .. \x7d"
  | .session access _ _ => "Session \x7b access_key: " ++ Text.quoted access ++ ", .. \x7d"

end Credentials

/-- Tokens of a product that is sold by the request. -/
structure ProductTokens where
  user : Option String := none
  product : Option String := none
  deriving Repr, DecidableEq

/-- The two tokens as one value; without a product token the user's stands alone. -/
def ProductTokens.value? (t : ProductTokens) : Option String :=
  match t.user, t.product with
  | user, some product => some (user.getD "" ++ "," ++ product)
  | some user, none => some user
  | none, none => none

/-- Credentials with what else of a client shows in every request. -/
structure Identity where
  credentials : Credentials
  tokens : ProductTokens := {}
  requesterPays : Bool := false

def securityTokenName : String := "x-amz-security-token"

def requestPayerName : String := "x-amz-request-payer"

namespace Identity

def setUserToken (i : Identity) (token : Option String) : Identity :=
  { i with tokens := { i.tokens with user := token } }

def setProductToken (i : Identity) (token : Option String) : Identity :=
  { i with tokens := { i.tokens with product := token } }

def setRequesterPays (i : Identity) (on : Bool) : Identity := { i with requesterPays := on }

def tokenHeaders (i : Identity) : List (String × String) :=
  (i.tokens.value?.map (securityTokenName, ·)).toList

def sessionHeaders (i : Identity) : List (String × String) :=
  match i.credentials with
  | .session _ _ token => [(securityTokenName, token)]
  | _ => []

/-- The headers that the readiness to pay gives. -/
def payerHeaders (i : Identity) : List (String × String) :=
  if i.requesterPays then [(requestPayerName, "requester")] else []

def headers (i : Identity) : Table String :=
  Table.ofList (i.tokenHeaders ++ i.sessionHeaders ++ i.payerHeaders)

end Identity

end ObjectStore
