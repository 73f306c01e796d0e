import ObjectStore.Proofs.Address
import ObjectStore.Proofs.CanonicalQuery
import ObjectStore.Proofs.RequestHeaders
import ObjectStore.Proofs.SigningKeys
/-!
# Requests that verify

A receiver has the request and knows the secret and the parameters.  It computes the
`authorization` header that such a request must carry and compares it with the one that is
there.  `Sender.verifies_build` says that they agree: what is signed is what is sent.

Nothing here uses what the signer has computed.  The receiver takes the path from the URL, the
headers, the date and the digest from the headers it got, and the day from the date.
-/

namespace ObjectStore

/-! ### What is signed -/

namespace SigningOrder

/-- The headers that are signed. -/
def signed (o : SigningOrder) : Table String := Signer.signedHeaders o.url o.headers o.digest o.now

/-- The canonical request. -/
def canonicalText (o : SigningOrder) : String :=
  Signature.canonicalRequest o.method (Signature.urlParts o.url).path
    (Signature.urlParts o.url).query o.signed o.digest.text

end SigningOrder

/-! ### The receiver -/

/-- What an `authorization` header says. -/
structure Authorization where
  accessKey : String
  day : String
  region : String
  names : List String
  signature : String

namespace Authorization

def scope (day region : String) : String := day ++ "/" ++ region ++ "/s3/aws4_request"

def text (a : Authorization) : String :=
  "AWS4-HMAC-SHA256 Credential=" ++ a.accessKey ++ "/" ++ scope a.day a.region ++
    ", SignedHeaders=" ++ ";".intercalate a.names ++ ", Signature=" ++ a.signature

end Authorization

namespace Receiver

/-- All headers but the one that carries the signature. -/
def covered (r : Http.Request) : Table String := r.headers.erase "authorization"

def headerLines (headers : Table String) : String :=
  String.join (headers.entries.map fun h => h.1 ++ ":" ++ Text.trim h.2 ++ "\n")

def canonical (q : Query) (r : Http.Request) (digest : String) : String :=
  "\n".intercalate
    [r.method.text, (UrlView.ofUrl r.url).path, q.canonicalText, headerLines (covered r),
      ";".intercalate (covered r).names, digest]

def mac (key : Bytes) (text : String) : Bytes := Digest.hmacSha256 key (utf8 text)

def signature (secret day region stamp canonical : String) : String :=
  let dayKey := mac (utf8 ("AWS4" ++ secret)) day
  let regionKey := mac dayKey region
  let serviceKey := mac regionKey "s3"
  let key := mac serviceKey "aws4_request"
  hexText (mac key ("\n".intercalate
    ["AWS4-HMAC-SHA256", stamp, Authorization.scope day region,
      hexText (Digest.sha256 (utf8 canonical))]))

/-- The authorization that a request must carry, if it has a date and a digest. -/
def authorization? (signer : Signer) (q : Query) (r : Http.Request) : Option Authorization := do
  let stamp ← r.headers.get? "x-amz-date"
  let digest ← r.headers.get? "x-amz-content-sha256"
  let day := String.ofList (Text.cut 'T' stamp.toList).1
  return {
    accessKey := signer.accessKey
    day := day
    region := signer.region
    names := (covered r).names
    signature := signature signer.secretKey day signer.region stamp (canonical q r digest) }

/-- The request goes where it should, and says so, and carries the authorization that it must. -/
structure Verifies (signer : Signer) (q : Query) (a : Address) (r : Http.Request) : Prop where
  path : (UrlView.ofUrl r.url).path = a.path
  query : (UrlView.ofUrl r.url).query = q.text
  host : r.headers.get? "host" = some (UrlView.ofUrl r.url).host
  authorization : ∃ auth, authorization? signer q r = some auth ∧
    r.headers.get? "authorization" = some auth.text

end Receiver

/-- What a signer says of a call: it depends on the date and on the canonical request. -/
def Signer.authorization (s : Signer) (o : SigningOrder) : Authorization where
  accessKey := s.accessKey
  day := o.now.dayStamp
  region := s.region
  names := o.signed.names
  signature := Receiver.signature s.secretKey o.now.dayStamp s.region o.now.secondStamp
    o.canonicalText

/-! ### The date -/

namespace Moment

theorem notMem_padded {c : Char} (hc : c.isDigit = false) (width n : Nat) :
    c ∉ (padded width n).toList := by
  rw [padded, String.toList_ofList, List.mem_append, not_or]
  constructor
  · intro hmem
    rw [List.eq_of_mem_replicate hmem] at hc
    cases hc
  · exact Text.notMem_toDigits hc n

theorem notMem_yearText {c : Char} (hc : c.isDigit = false) (hsign : c ≠ '-' ∧ c ≠ '+') (y : Int) :
    c ∉ (yearText y).toList := by
  have hdigits := notMem_padded hc 4 y.natAbs
  unfold yearText
  split
  · simp [hdigits, hsign.1]
  · split
    · simp [hdigits, hsign.2]
    · exact hdigits

theorem notMem_dayStamp {c : Char} (hc : c.isDigit = false) (hsign : c ≠ '-' ∧ c ≠ '+')
    (m : Moment) : c ∉ m.dayStamp.toList := by
  have hyear := notMem_yearText hc hsign m.year
  have hmonth := notMem_padded hc 2 m.month
  have hday := notMem_padded hc 2 m.day
  simp [dayStamp, hyear, hmonth, hday]

/-- The day can be read off the date. -/
theorem cut_secondStamp (m : Moment) :
    String.ofList (Text.cut 'T' m.secondStamp.toList).1 = m.dayStamp := by
  have hday : 'T' ∉ m.dayStamp.toList := notMem_dayStamp (by decide) (by decide) m
  have hsplit : m.secondStamp.toList = m.dayStamp.toList ++ 'T' ::
      (padded 2 m.hour ++ padded 2 m.minute ++ padded 2 m.second ++ "Z").toList := by
    simp [secondStamp]
  rw [hsplit, Text.cut_append_sep hday, String.ofList_toList]

end Moment

/-! ### The headers -/

/-- Before a request is signed, nothing in it claims to be its authorization. -/
theorem Sender.get?_unsignedHeaders {s : Sender} (hprofile : s.endpoint.profile = .amazonS3)
    (d : Descriptor) : (s.unsignedHeaders d).get? "authorization" = none := by
  have hmetadata : (d.metadata.toHeaders .amazonS3).get? "authorization" = none := by
    rw [Metadata.get?_toHeaders_of_own (by decide), if_neg (by decide)]
  rw [get?_unsignedHeaders_eq, Identity.get?_headers, if_neg (by decide), if_neg (by decide),
    if_neg (by decide), if_neg (by decide), hprofile, hmetadata]
  rfl

/-! ### The signature -/

namespace Receiver

theorem scope_eq (day region : String) :
    Signature.scope day region Signer.service = Authorization.scope day region := by
  simp only [Signature.scope, Authorization.scope, Signer.service, String.append_assoc]
  rfl

/-- The chain of keys is the signer's. -/
theorem signature_eq (s : Signer) (day stamp canonical : String) :
    signature s.secretKey day s.region stamp canonical =
      hexText (Digest.hmacSha256 (s.dayKey day) (utf8 (Signature.stringToSign stamp
        (Signature.scope day s.region Signer.service) canonical))) := by
  rw [scope_eq]
  rfl

theorem get?_authorization_sign (s : Signer) (o : SigningOrder) :
    (s.sign o.method o.url o.headers o.digest o.now).get? "authorization" =
      some (s.authorization o).text := by
  rw [Signer.authorization, signature_eq, Signer.sign, Signer.signWith, Table.get?_insert,
    if_pos rfl, scope_eq]
  rfl

/-- Both sides bring the request into one form, since the receiver reads off the URL what the
signer did, and finds the headers that were signed. -/
theorem canonical_eq {q : Query} {r : Http.Request} {a : Address} (ha : a.Readable)
    (hurl : r.url = a.url q.text) (digest : String) :
    canonical q r digest =
      Signature.canonicalRequest r.method.text (Signature.urlParts r.url).path
        (Signature.urlParts r.url).query (covered r) digest := by
  rw [canonical, Signature.canonicalRequest, hurl, Address.urlParts_url ha, Address.ofUrl_url ha,
    Signature.canonicalQuery_text]
  rfl

/-! A request `r` that a signer has signed. -/

variable {r : Http.Request} {s : Signer} {headers : Table String} {digest : PayloadDigest}
  {now : Moment}

theorem covered_of_signed (h : headers.get? "authorization" = none)
    (hr : r.headers = s.sign r.method.text r.url headers digest now) :
    covered r = Signer.signedHeaders r.url headers digest now := by
  rw [covered, hr]
  exact s.erase_sign _ h

theorem get?_of_signed (hr : r.headers = s.sign r.method.text r.url headers digest now) :
    r.headers.get? "host" = some (Signature.urlParts r.url).host ∧
      r.headers.get? "x-amz-date" = some now.secondStamp ∧
      r.headers.get? "x-amz-content-sha256" = some digest.text := by
  rw [hr]
  refine ⟨?_, ?_, ?_⟩
  · rw [s.get?_sign _ (by decide), Signer.get?_signedHeaders]
    simp
  · rw [s.get?_sign _ (by decide), Signer.get?_signedHeaders]
    simp
  · rw [s.get?_sign _ (by decide), Signer.get?_signedHeaders]
    simp

theorem authorization_of_signed {q : Query} {a : Address} (ha : a.Readable)
    (hurl : r.url = a.url q.text) (h : headers.get? "authorization" = none)
    (hr : r.headers = s.sign r.method.text r.url headers digest now) :
    ∃ auth, authorization? s q r = some auth ∧
      r.headers.get? "authorization" = some auth.text := by
  obtain ⟨-, hstamp, hdigest⟩ := get?_of_signed hr
  have hcovered := covered_of_signed h hr
  have hcanonical := canonical_eq ha hurl digest.text
  refine ⟨⟨s.accessKey, now.dayStamp, s.region, (covered r).names, signature s.secretKey
    now.dayStamp s.region now.secondStamp (canonical q r digest.text)⟩, ?_, ?_⟩
  · simp only [authorization?, hstamp, hdigest, Option.bind_eq_bind, Option.bind_some,
      Moment.cut_secondStamp]
    rfl
  · rw [hcanonical, hcovered, hr]
    exact get?_authorization_sign s ⟨r.method.text, r.url, headers, digest, now⟩

theorem verifies_of_signed {q : Query} {a : Address} (ha : a.Readable)
    (hurl : r.url = a.url q.text) (h : headers.get? "authorization" = none)
    (hr : r.headers = s.sign r.method.text r.url headers digest now) : Verifies s q a r := by
  constructor
  · rw [hurl, Address.ofUrl_url ha]
  · rw [hurl, Address.ofUrl_url ha]
  · rw [(get?_of_signed hr).1, hurl, Address.urlParts_url ha]
  · exact authorization_of_signed ha hurl h hr

end Receiver

/-- **A request that is built verifies.** -/
theorem Sender.verifies_build {e : Endpoint} (hprofile : e.profile = .amazonS3)
    (hhost : '/' ∉ e.host.toList ∧ '?' ∉ e.host.toList) (hpath : '?' ∉ e.virtualPath.toList)
    (i : Identity) (signer : Signer) (now : Moment) (d : Descriptor) :
    Receiver.Verifies signer d.query (e.resolve d.bucket d.key)
      (build { endpoint := e, identity := i, signer := some signer } now d) := by
  have ha := Endpoint.readable_resolve hhost hpath d.bucket d.key
  have hunsigned := get?_unsignedHeaders
    (s := { endpoint := e, identity := i, signer := some signer }) hprofile d
  exact Receiver.verifies_of_signed ha rfl hunsigned rfl

/-- The encoded names of these parameters are in another order than the names. -/
theorem Sender.verifies_misordered_query :
    Receiver.Verifies { accessKey := "AKID", secretKey := "secret" }
      ((Query.empty.set "a-" "1").set "a/" "2") ⟨.http, "media.localhost", 8080, "/x%3Fy"⟩
      (build
        { endpoint := { host := "localhost", httpPort := 8080, httpsOnly := false },
          identity := { credentials := .session "AKID" "secret" "token" },
          signer := some { accessKey := "AKID", secretKey := "secret" } }
        (Moment.ofSeconds 1709622489)
        { method := .get, bucket := some "media", key := some "x?y",
          query := (Query.empty.set "a-" "1").set "a/" "2" }) := by
  have haddress : Endpoint.resolve { host := "localhost", httpPort := 8080, httpsOnly := false }
      (some "media") (some "x?y") = ⟨.http, "media.localhost", 8080, "/x%3Fy"⟩ := by
    decide +kernel
  rw [← haddress]
  exact verifies_build (e := { host := "localhost", httpPort := 8080, httpsOnly := false }) rfl
    (by decide +kernel) (by decide +kernel) { credentials := .session "AKID" "secret" "token" }
    { accessKey := "AKID", secretKey := "secret" } (Moment.ofSeconds 1709622489)
    { method := .get, bucket := some "media", key := some "x?y",
      query := (Query.empty.set "a-" "1").set "a/" "2" }

end ObjectStore
