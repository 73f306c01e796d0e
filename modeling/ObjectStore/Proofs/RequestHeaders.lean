import ObjectStore.Proofs.Metadata
import ObjectStore.Request
/-!
# The headers of a request

The metadata of a request becomes headers first.  Then its body, the identity and at last the signer
put theirs in the place of what is there, and each of them has a look-up law here that says
what it puts and that it leaves the rest alone.

**A request says of its body what is so** (`Sender.describes_build`): the length that is declared,
which no metadata changes, and the digest of the bytes that are sent, which only the caller
may overrule.
-/

namespace ObjectStore

/-! ### Identities -/

/-- The token of a session. -/
def Credentials.sessionToken? : Credentials → Option String
  | .session _ _ token => some token
  | _ => none

namespace Identity

/-- The header of those who pay. -/
def payer? (i : Identity) : Option String := if i.requesterPays then some "requester" else none

variable (i : Identity) (name : String)

theorem lastOf_tokenHeaders : lastOf (Table.valueFor name) i.tokenHeaders =
    if name = securityTokenName then i.tokens.value? else none := by
  unfold tokenHeaders
  cases i.tokens.value? with
  | none => exact (ite_self none).symm
  | some token => exact lastOf_singleton _ _

theorem lastOf_sessionHeaders : lastOf (Table.valueFor name) i.sessionHeaders =
    if name = securityTokenName then i.credentials.sessionToken? else none := by
  unfold sessionHeaders
  cases i.credentials with
  | anonymous => exact (ite_self none).symm
  | keyPair access secret => exact (ite_self none).symm
  | session access secret token => exact lastOf_singleton _ _

theorem lastOf_payerHeaders : lastOf (Table.valueFor name) i.payerHeaders =
    if name = requestPayerName then i.payer? else none := by
  unfold payerHeaders payer?
  cases i.requesterPays with
  | false => exact (ite_self none).symm
  | true => exact lastOf_singleton _ _

/-- The token of a session takes the place of a product's. -/
theorem get?_headers : i.headers.get? name =
    if name = securityTokenName then i.credentials.sessionToken?.or i.tokens.value?
    else if name = requestPayerName then i.payer? else none := by
  have hne : securityTokenName ≠ requestPayerName := by decide
  rw [headers, Table.get?_ofList, lastOf_append, lastOf_append, lastOf_tokenHeaders,
    lastOf_sessionHeaders, lastOf_payerHeaders]
  by_cases htoken : name = securityTokenName
  · subst htoken
    rw [if_neg hne, if_pos rfl, if_pos rfl, if_pos rfl, Option.none_or]
  · rw [if_neg htoken, if_neg htoken, if_neg htoken, Option.none_or, Option.or_none]

end Identity

/-! ### Bodies -/

/-- The length that a request names, if it names one. -/
def Descriptor.length? (d : Descriptor) : Option String :=
  if d.body.length = 0 ∧ d.method ≠ .put ∧ d.method ≠ .post then none
  else some (toString d.body.length)

namespace Sender

variable (s : Sender) (d : Descriptor) (now : Moment) {name : String}

theorem get?_withLength (headers : Table String) (name : String) :
    (withLength d headers).get? name =
      if name = "content-length" then d.length? else headers.get? name := by
  unfold withLength Descriptor.length?
  split
  · rw [Table.get?_erase]
  · rw [Table.get?_insert]

/-- Before it is signed a request says what the identity says of itself, then what the body says,
and else what the metadata does. -/
theorem get?_unsignedHeaders_eq (name : String) :
    (s.unsignedHeaders d).get? name = (s.identity.headers.get? name).or
      (if name = "content-length" then d.length?
      else if name = Metadata.payloadDigestName then none
      else (d.metadata.toHeaders s.endpoint.profile).get? name) := by
  rw [unsignedHeaders, Table.get?_insertAll, Table.lastOf_entries, get?_withLength,
    Table.get?_erase]

end Sender

/-! ### Signers -/

namespace Signer

variable {url : String} {headers : Table String} {digest : PayloadDigest} {now : Moment}

theorem get?_signedHeaders (name : String) :
    (signedHeaders url headers digest now).get? name =
      if name = "x-amz-content-sha256" then some digest.text
      else if name = "x-amz-date" then some now.secondStamp
      else if name = "host" then some (Signature.urlParts url).host
      else headers.get? name := by
  simp only [signedHeaders, Metadata.payloadDigestName, Table.get?_insert]

/-- What is signed is all that a receiver finds besides the signature. -/
theorem erase_sign (s : Signer) (method : String) (h : headers.get? "authorization" = none) :
    (s.sign method url headers digest now).erase "authorization" =
      signedHeaders url headers digest now := by
  apply Table.erase_insert
  rw [get?_signedHeaders]
  simpa using h

theorem get?_sign (s : Signer) (method : String) {name : String} (hname : name ≠ "authorization") :
    (s.sign method url headers digest now).get? name =
      (signedHeaders url headers digest now).get? name := by
  rw [sign, signWith, Table.get?_insert, if_neg hname]

end Signer

/-- The headers that a signer puts in. -/
def signerNames : List String :=
  ["authorization", Metadata.payloadDigestName, "x-amz-date", "host"]

namespace Sender

variable {s : Sender} {d : Descriptor} {now : Moment} {name : String}

/-- Signed or not, a request has the other headers as they are. -/
theorem get?_build (h : name ∉ signerNames) :
    (s.build now d).headers.get? name = (s.unsignedHeaders d).get? name := by
  simp only [signerNames, Metadata.payloadDigestName, List.mem_cons, List.not_mem_nil, or_false,
    not_or] at h
  obtain ⟨hauthorization, hdigest, hdate, hhost⟩ := h
  unfold build
  cases s.signer with
  | none => rfl
  | some signer =>
    change (signer.sign _ _ _ _ now).get? name = _
    rw [signer.get?_sign _ hauthorization, Signer.get?_signedHeaders, if_neg hdigest, if_neg hdate,
      if_neg hhost]

end Sender

/-! ### What a request says of its body -/

theorem PayloadDigest.text_ofBytes (payload : Bytes) :
    (ofBytes payload).text = hexText (Digest.sha256 payload) := by
  have hempty : PayloadDigest.empty.text = hexText (Digest.sha256 []) := by decide +kernel
  unfold ofBytes
  split
  · next h =>
    obtain rfl := List.isEmpty_iff.1 h
    exact hempty
  · rfl

namespace Http.Body

/-- All bytes of a body that is held in memory. -/
def held? : Body → Option Bytes
  | .empty => some []
  | .buffered content => some content
  | .stream _ _ => none

variable {b : Body}

theorem collect_of_held? {bytes : Bytes} (h : b.held? = some bytes) : b.collect = .ok bytes := by
  cases b with
  | empty =>
    cases h
    rfl
  | buffered content =>
    cases h
    rfl
  | stream length source => cases h

theorem text_defaultDigest_of_held? {bytes : Bytes} (h : b.held? = some bytes) :
    b.defaultDigest.text = hexText (Digest.sha256 bytes) := by
  cases b with
  | empty =>
    cases h
    exact PayloadDigest.text_ofBytes []
  | buffered content =>
    cases h
    exact PayloadDigest.text_ofBytes bytes
  | stream length source => cases h

theorem text_defaultDigest_of_not_held? (h : b.held? = none) :
    b.defaultDigest.text = "UNSIGNED-PAYLOAD" := by
  cases b with
  | empty => cases h
  | buffered content => cases h
  | stream length source => rfl

end Http.Body

namespace Descriptor

/-- The headers say of the body of a request what is so. -/
structure DescribedBy (d : Descriptor) (headers : Table String) : Prop where
  /-- The digest is the one that is given for this request, -/
  overruled : ∀ digest, d.digest = some digest →
    headers.get? Metadata.payloadDigestName = some digest.text
  /-- else the one in the metadata, -/
  noted : d.digest = none → ∀ value, d.metadata.get? Metadata.payloadDigestName = some value →
    headers.get? Metadata.payloadDigestName = some value
  /-- else that of the bytes that are sent, if these are known, -/
  held : d.digest = none → d.metadata.get? Metadata.payloadDigestName = none →
    ∀ bytes, d.body.held? = some bytes → d.body.collect = .ok bytes ∧
      headers.get? Metadata.payloadDigestName = some (hexText (Digest.sha256 bytes))
  /-- and none if they are not. -/
  streamed : d.digest = none → d.metadata.get? Metadata.payloadDigestName = none →
    d.body.held? = none → headers.get? Metadata.payloadDigestName = some "UNSIGNED-PAYLOAD"
  /-- The length is the declared one, and is left out where there is nothing to send and no method
  that sends. -/
  length : ¬ (d.body.length = 0 ∧ d.method ≠ .put ∧ d.method ≠ .post) →
    headers.get? "content-length" = some (toString d.body.length)
  lengthless : d.body.length = 0 ∧ d.method ≠ .put ∧ d.method ≠ .post →
    headers.get? "content-length" = none

end Descriptor

namespace Sender

variable {s : Sender} {signer : Signer} (d : Descriptor) (now : Moment)

theorem get?_length_build : (s.build now d).headers.get? "content-length" = d.length? := by
  rw [get?_build (by decide), get?_unsignedHeaders_eq, Identity.get?_headers, if_neg (by decide),
    if_neg (by decide), Option.none_or, if_pos rfl]

theorem get?_digest_build (hsigner : s.signer = some signer) :
    (s.build now d).headers.get? Metadata.payloadDigestName =
      some (digestOf d (d.metadata.toHeaders s.endpoint.profile)).text := by
  unfold build
  rw [hsigner]
  change (signer.sign _ _ _ _ now).get? Metadata.payloadDigestName = _
  rw [signer.get?_sign _ (by decide), Signer.get?_signedHeaders]
  exact if_pos rfl

/-- The digest in the metadata counts in whatever case its name was given. -/
theorem text_digestOf :
    (digestOf d (d.metadata.toHeaders .amazonS3)).text =
      ((d.digest.map PayloadDigest.text).or (d.metadata.get? Metadata.payloadDigestName)).getD
        d.body.defaultDigest.text := by
  have hlower : lowerCase Metadata.payloadDigestName = Metadata.payloadDigestName := by decide
  rw [digestOf, Metadata.get?_toHeaders_of_own (by decide), if_pos (by decide), Metadata.get?,
    hlower]
  cases d.digest with
  | some digest => rfl
  | none =>
    cases d.metadata.entries.get? Metadata.payloadDigestName with
    | some value => rfl
    | none => rfl

theorem describedBy_build (hprofile : s.endpoint.profile = .amazonS3)
    (hsigner : s.signer = some signer) : d.DescribedBy (s.build now d).headers := by
  have hdigest := get?_digest_build d now hsigner
  have hlength := get?_length_build (s := s) d now
  rw [hprofile, text_digestOf] at hdigest
  refine ⟨?_, ?_, ?_, ?_, ?_, ?_⟩
  · intro digest hgiven
    rw [hgiven] at hdigest
    exact hdigest
  · intro hgiven value hnoted
    rw [hgiven, hnoted] at hdigest
    exact hdigest
  · intro hgiven hnoted bytes hheld
    rw [hgiven, hnoted] at hdigest
    exact ⟨Http.Body.collect_of_held? hheld,
      hdigest.trans (congrArg some (Http.Body.text_defaultDigest_of_held? hheld))⟩
  · intro hgiven hnoted hheld
    rw [hgiven, hnoted] at hdigest
    exact hdigest.trans (congrArg some (Http.Body.text_defaultDigest_of_not_held? hheld))
  · intro hsends
    rw [hlength, Descriptor.length?, if_neg hsends]
  · intro hnothing
    rw [hlength, Descriptor.length?, if_pos hnothing]

/-- **A request says of its body what is so.**  An entry of the metadata for the digest counts in
any case, and no entry is taken for the length. -/
theorem describes_build (hprofile : s.endpoint.profile = .amazonS3)
    (hsigner : s.signer = some signer) :
    d.DescribedBy (s.build now d).headers ∧
      ∀ name value,
        (lowerCase name = Metadata.payloadDigestName → d.digest = none →
          (s.build now (d.header name value)).headers.get? Metadata.payloadDigestName =
            some value) ∧
        (s.build now (d.header name value)).headers.get? "content-length" =
          (s.build now d).headers.get? "content-length" := by
  refine ⟨describedBy_build d now hprofile hsigner, ?_⟩
  intro name value
  constructor
  · intro hname hgiven
    have hnoted : (d.header name value).metadata.get? Metadata.payloadDigestName = some value := by
      rw [Descriptor.header, Metadata.get?_insert, hname, if_pos (by decide)]
    exact (describedBy_build (d.header name value) now hprofile hsigner).noted hgiven value hnoted
  · rw [get?_length_build, get?_length_build]
    rfl

/-- What signs for the holder of a key. -/
def keyHolder : Sender :=
  { endpoint := {}, identity := { credentials := .keyPair "AKID" "secret" },
    signer := some { accessKey := "AKID", secretKey := "secret" } }

/-- Five bytes that are declared as a thousand. -/
def misdeclared : Descriptor :=
  { method := .post, bucket := some "b", metadata := .ofList [("Content-Length", "1000")],
    body := .buffered [104, 101, 108, 108, 111] }

/-- The length is counted and not believed; the digest is computed until one is given. -/
theorem describes_misdeclared :
    keyHolder.endpoint.profile = .amazonS3 ∧
      (keyHolder.build (.ofSeconds 1709622489) misdeclared).headers.get? "content-length" =
        some "5" ∧
      (keyHolder.build (.ofSeconds 1709622489) misdeclared).headers.get?
          Metadata.payloadDigestName =
        some "2cf24dba5fb0a30e26e83b2ac5b9e29e1b161e5c1fa7425e73043362938b9824" ∧
      (keyHolder.build (.ofSeconds 1709622489)
          (misdeclared.header "X-Amz-Content-SHA256" "x")).headers.get?
          Metadata.payloadDigestName = some "x" := by
  obtain ⟨hdescribed, hadded⟩ :=
    describes_build misdeclared (.ofSeconds 1709622489) (s := keyHolder) rfl rfl
  refine ⟨rfl, ?_, ?_, ?_⟩
  · exact hdescribed.length (by decide)
  · have hbytes : hexText (Digest.sha256 [104, 101, 108, 108, 111]) =
        "2cf24dba5fb0a30e26e83b2ac5b9e29e1b161e5c1fa7425e73043362938b9824" := by decide +kernel
    rw [← hbytes]
    exact (hdescribed.held rfl (by decide +kernel) _ rfl).2
  · exact (hadded "X-Amz-Content-SHA256" "x").1 (by decide) rfl

end Sender

end ObjectStore
