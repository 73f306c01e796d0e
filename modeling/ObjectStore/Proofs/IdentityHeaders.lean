import ObjectStore.Proofs.CanonicalRequest
/-!
# Whom a request is from

An identity begins with its credentials; product tokens and the readiness to pay are set on it
later, in any order and as often as one likes.  Of each only the last setting counts
(`Identity.reached_eq`).

**A request shows whom it is from** (`Sender.identifies_build`).  No entry of its metadata shows
anyone else, and where there is a signature it covers what is shown.
-/

namespace ObjectStore

/-! ### What is set on an identity -/

namespace Identity

/-- One setting. -/
inductive Setting where
  | userToken (token : Option String)
  | productToken (token : Option String)
  | requesterPays (on : Bool)
  deriving DecidableEq

def set (i : Identity) : Setting → Identity
  | .userToken token => i.setUserToken token
  | .productToken token => i.setProductToken token
  | .requesterPays on => i.setRequesterPays on

/-- The identity after some settings. -/
def reached (c : Credentials) (history : List Setting) : Identity :=
  history.foldl set { credentials := c }

namespace Setting

def user? : Setting → Option (Option String)
  | .userToken token => some token
  | _ => none

def product? : Setting → Option (Option String)
  | .productToken token => some token
  | _ => none

def pays? : Setting → Option Bool
  | .requesterPays on => some on
  | _ => none

/-- The user's token, if the last setting gives one. -/
def lastUser? (history : List Setting) : Option String := (lastOf user? history).getD none

/-- The product's token, if the last setting gives one. -/
def lastProduct? (history : List Setting) : Option String := (lastOf product? history).getD none

def lastPays (history : List Setting) : Bool := (lastOf pays? history).getD false

end Setting

theorem set_eq (i : Identity) (setting : Setting) :
    i.set setting =
      { credentials := i.credentials,
        tokens := { user := setting.user?.getD i.tokens.user,
                    product := setting.product?.getD i.tokens.product },
        requesterPays := setting.pays?.getD i.requesterPays } := by
  cases setting with
  | userToken => rfl
  | productToken => rfl
  | requesterPays => rfl

theorem foldl_set (i : Identity) (history : List Setting) :
    history.foldl set i =
      { credentials := i.credentials,
        tokens := { user := (lastOf Setting.user? history).getD i.tokens.user,
                    product := (lastOf Setting.product? history).getD i.tokens.product },
        requesterPays := (lastOf Setting.pays? history).getD i.requesterPays } := by
  induction history generalizing i with
  | nil => rfl
  | cons setting history ih =>
    rw [List.foldl_cons, ih, set_eq]
    simp only [lastOf_cons, Option.getD_or]

/-- Of each kind the last setting counts. -/
theorem reached_eq (c : Credentials) (history : List Setting) :
    reached c history =
      { credentials := c,
        tokens := { user := Setting.lastUser? history, product := Setting.lastProduct? history },
        requesterPays := Setting.lastPays history } :=
  foldl_set { credentials := c } history

end Identity

/-! ### What a signature covers -/

/-- A request carries a signature of what a form says. -/
structure Signer.Signs (s : Signer) (r : Http.Request) (a : Authorization) (f : CanonicalForm) :
    Prop where
  authorization : r.headers.get? "authorization" = some a.text
  names : a.names = f.fields.map Prod.fst
  signature : ∃ stamp, r.headers.get? "x-amz-date" = some stamp ∧
    a.signature = Receiver.signature s.secretKey a.day a.region stamp f.text

/-- The authorization names a header, and the form has its value but for blanks at the ends. -/
structure Authorization.Covers (a : Authorization) (f : CanonicalForm) (name value : String) :
    Prop where
  named : name ∈ a.names
  valued : (name, Text.trim value) ∈ f.fields

namespace SigningOrder

variable {s : Signer} {o : SigningOrder} {r : Http.Request}

theorem names_fields (o : SigningOrder) : o.form.fields.map Prod.fst = o.signed.names := by
  rw [form, List.map_map]
  rfl

theorem signs_sign (h : r.headers = s.sign o.method o.url o.headers o.digest o.now) :
    s.Signs r (s.authorization o) o.form := by
  refine ⟨?_, (names_fields o).symm, o.now.secondStamp, ?_, ?_⟩
  · rw [h]
    exact Receiver.get?_authorization_sign s o
  · rw [h, s.get?_sign _ (by decide), Signer.get?_signedHeaders]
    simp
  · rw [Signer.authorization, canonicalText_eq]

theorem covers_sign (h : r.headers = s.sign o.method o.url o.headers o.digest o.now)
    {name value : String} (hname : name ≠ "authorization")
    (hvalue : r.headers.get? name = some value) :
    (s.authorization o).Covers o.form name value := by
  rw [h, s.get?_sign _ hname] at hvalue
  have hmem : (name, value) ∈ o.signed.entries := Table.mem_entries_of_get? hvalue
  exact ⟨List.mem_map_of_mem hmem, List.mem_map_of_mem hmem⟩

end SigningOrder

/-! ### What a request shows -/

/-- The headers that say whom a request is from. -/
def identityNames : List String := [securityTokenName, requestPayerName]

namespace Sender

/-- A request shows the credentials, tokens and readiness to pay of its sender. -/
structure Identifies (c : Credentials) (history : List Identity.Setting) (signer : Option Signer)
    (d : Descriptor) (r : Http.Request) : Prop where
  /-- The token is that of the session, -/
  session : ∀ token, c.sessionToken? = some token →
    r.headers.get? securityTokenName = some token
  /-- else the product's behind the user's, -/
  product : c.sessionToken? = none →
    ∀ product, Identity.Setting.lastProduct? history = some product →
      r.headers.get? securityTokenName =
        some ((Identity.Setting.lastUser? history).getD "" ++ "," ++ product)
  /-- else the user's, -/
  user : c.sessionToken? = none → Identity.Setting.lastProduct? history = none →
    ∀ user, Identity.Setting.lastUser? history = some user →
      r.headers.get? securityTokenName = some user
  /-- and only where there is none of them the one in the metadata. -/
  tokenless : c.sessionToken? = none → Identity.Setting.lastProduct? history = none →
    Identity.Setting.lastUser? history = none →
      r.headers.get? securityTokenName = d.metadata.get? securityTokenName
  /-- It is the same with those who pay. -/
  payer : Identity.Setting.lastPays history = true →
    r.headers.get? requestPayerName = some "requester"
  payerless : Identity.Setting.lastPays history = false →
    r.headers.get? requestPayerName = d.metadata.get? requestPayerName
  /-- All of this is signed as it is sent. -/
  signed : ∀ s, signer = some s → ∃ a f, s.Signs r a f ∧
    ∀ name ∈ identityNames, ∀ value, r.headers.get? name = some value →
      a.Covers f name value

variable {s : Sender} (d : Descriptor) (now : Moment)

/-- What is signed when a request is built. -/
def order (s : Sender) (now : Moment) (d : Descriptor) : SigningOrder where
  method := d.method.text
  url := (s.endpoint.resolve d.bucket d.key).url d.query.text
  headers := s.unsignedHeaders d
  digest := digestOf d (d.metadata.toHeaders s.endpoint.profile)
  now := now

theorem headers_build {signer : Signer} (hsigner : s.signer = some signer) :
    (s.build now d).headers = signer.sign (s.order now d).method (s.order now d).url
      (s.order now d).headers (s.order now d).digest now := by
  rw [build, hsigner]
  rfl

/-- The identity comes before the metadata. -/
theorem get?_build_of_mem (hprofile : s.endpoint.profile = .amazonS3) {name : String}
    (hname : name ∈ identityNames) : (s.build now d).headers.get? name =
      (s.identity.headers.get? name).or (d.metadata.get? name) := by
  have hother : ∀ name ∈ identityNames, name ∉ signerNames ∧ name ≠ "content-length" ∧
      name ≠ Metadata.payloadDigestName := by decide
  have hown : ∀ name ∈ identityNames,
      Text.afterStart? ServiceProfile.amazonS3.metadataStart name = none ∧
        Metadata.headerName .amazonS3 name = name ∧ lowerCase name = name := by decide
  obtain ⟨hsigner, hlength, hdigest⟩ := hother name hname
  obtain ⟨hstart, hkept, hlower⟩ := hown name hname
  rw [get?_build hsigner, get?_unsignedHeaders_eq, if_neg hlength, if_neg hdigest, hprofile,
    Metadata.get?_toHeaders_of_own hstart, if_pos hkept, Metadata.get?, hlower]

variable {c : Credentials} {history : List Identity.Setting}

theorem get?_token_build (hprofile : s.endpoint.profile = .amazonS3)
    (hidentity : s.identity = .reached c history) :
    (s.build now d).headers.get? securityTokenName =
      (c.sessionToken?.or (ProductTokens.value?
        { user := Identity.Setting.lastUser? history,
          product := Identity.Setting.lastProduct? history })).or
        (d.metadata.get? securityTokenName) := by
  rw [get?_build_of_mem d now hprofile (by decide), Identity.get?_headers, if_pos rfl, hidentity,
    Identity.reached_eq]

theorem get?_payer_build (hprofile : s.endpoint.profile = .amazonS3)
    (hidentity : s.identity = .reached c history) :
    (s.build now d).headers.get? requestPayerName =
      (if Identity.Setting.lastPays history then some "requester" else none).or
        (d.metadata.get? requestPayerName) := by
  rw [get?_build_of_mem d now hprofile (by decide), Identity.get?_headers, if_neg (by decide),
    if_pos rfl, hidentity, Identity.reached_eq]
  rfl

theorem exists_signs_build {signer : Signer} (hsigner : s.signer = some signer) :
    ∃ a f, signer.Signs (s.build now d) a f ∧
      ∀ name ∈ identityNames, ∀ value, (s.build now d).headers.get? name = some value →
        a.Covers f name value := by
  have hheaders := headers_build d now hsigner
  refine ⟨_, _, SigningOrder.signs_sign hheaders, ?_⟩
  intro name hname value hvalue
  have hne : name ≠ "authorization" := by
    rintro rfl
    revert hname
    decide
  exact SigningOrder.covers_sign hheaders hne hvalue

/-- **A request shows whom it is from**, signed or not. -/
theorem identifies_build {e : Endpoint} (hprofile : e.profile = .amazonS3) (c : Credentials)
    (history : List Identity.Setting) (signer : Option Signer) :
    Identifies c history signer d
      (build { endpoint := e, identity := .reached c history, signer } now d) := by
  have htoken := get?_token_build d now hprofile
    (s := { endpoint := e, identity := .reached c history, signer }) rfl
  have hpayer := get?_payer_build d now hprofile
    (s := { endpoint := e, identity := .reached c history, signer }) rfl
  refine ⟨?_, ?_, ?_, ?_, ?_, ?_, ?_⟩
  · intro token hsession
    rw [htoken, hsession]
    rfl
  · intro hsession product hproduct
    rw [htoken, hsession, hproduct]
    rfl
  · intro hsession hproduct user huser
    rw [htoken, hsession, hproduct, huser]
    rfl
  · intro hsession hproduct huser
    rw [htoken, hsession, hproduct, huser]
    rfl
  · intro hpays
    rw [hpayer, hpays]
    rfl
  · intro hpays
    rw [hpayer, hpays]
    rfl
  · intro signer hsigner
    exact exists_signs_build d now hsigner

/-- The user's token is taken back and the product's replaced. -/
def reconsidered : List Identity.Setting :=
  [.userToken (some "u"), .productToken (some "q"), .requesterPays false,
    .productToken (some "p"), .userToken none, .requesterPays true]

/-- The metadata names another token and someone else who pays. -/
def impersonating : Descriptor :=
  { method := .get, bucket := some "b",
    metadata := .ofList [("X-Amz-Security-Token", "forged"), ("x-amz-request-payer", "nobody")] }

/-- What the metadata says is neither sent nor signed. -/
theorem identifies_impersonating :
    ServiceProfile.amazonS3 = ({} : Endpoint).profile ∧
      (∃ r a f, build
          { endpoint := {}, identity := .reached (.keyPair "AKID" "secret") reconsidered,
            signer := some { accessKey := "AKID", secretKey := "secret" } }
          (.ofSeconds 1709622489) impersonating = r ∧
        r.headers.get? securityTokenName = some ",p" ∧
        r.headers.get? requestPayerName = some "requester" ∧
        Signer.Signs { accessKey := "AKID", secretKey := "secret" } r a f ∧
        a.Covers f securityTokenName ",p" ∧ a.Covers f requestPayerName "requester") ∧
      (build
          { endpoint := {}, identity := .reached (.session "AKID" "secret" "t") reconsidered,
            signer := none }
          (.ofSeconds 1709622489) impersonating).headers.get? securityTokenName = some "t" := by
  have hkeys := identifies_build impersonating (.ofSeconds 1709622489) (e := {}) rfl
    (.keyPair "AKID" "secret") reconsidered
    (some { accessKey := "AKID", secretKey := "secret" })
  have hsession := identifies_build impersonating (.ofSeconds 1709622489) (e := {}) rfl
    (.session "AKID" "secret" "t") reconsidered none
  have htoken := hkeys.product rfl "p" rfl
  have hpayer := hkeys.payer rfl
  obtain ⟨a, f, hsigns, hcovers⟩ := hkeys.signed _ rfl
  refine ⟨rfl, ⟨_, a, f, rfl, htoken, hpayer, hsigns, ?_, ?_⟩, hsession.session "t" rfl⟩
  · exact hcovers securityTokenName (by decide) ",p" htoken
  · exact hcovers requestPayerName (by decide) "requester" hpayer

end Sender

end ObjectStore
