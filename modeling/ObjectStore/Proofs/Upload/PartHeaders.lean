import ObjectStore.Proofs.Upload.Requests
/-!
# What the request of a part tells

The metadata that comes with a part is the caller's, and most of it belongs to the object and not
to the part.  Only the standard headers and the digest of the payload go with a part
(`Metadata.forPart_eq_of_agree`), so that the other entries cannot be read off a request.

**Metadata stays out of the requests of parts** (`Client.confined_uploadPart`): from metadata that
agrees on what goes with a part the same operation is made, and on Amazon S3 all headers that it
sends have names that are known beforehand.
-/

namespace ObjectStore

namespace Metadata

/-- The names of the entries that a part is sent with. -/
def partNames : List String := payloadDigestName :: standardNames

/-- The same values, if any, for a part to be sent with. -/
def AgreeForPart (m m' : Metadata) : Prop := ∀ name ∈ partNames, m.get? name = m'.get? name

theorem mem_partNames {name : String} :
    name ∈ partNames ↔ (isStandard name || decide (name = payloadDigestName)) = true := by
  rw [partNames, List.mem_cons, isStandard, Bool.or_eq_true, List.contains_iff_mem,
    decide_eq_true_eq, or_comm]

theorem get?_of_mem_partNames (m : Metadata) {name : String} (h : name ∈ partNames) :
    m.get? name = m.entries.get? name := by
  have hlower : ∀ name ∈ partNames, lowerCase name = name := by decide
  rw [get?, hlower name h]

theorem forPart_eq_of_agree {m m' : Metadata} (h : m.AgreeForPart m') : m.forPart = m'.forPart := by
  refine congrArg Metadata.mk (Table.eq_of_get?_eq fun name => ?_)
  rw [Table.get?_filter, Table.get?_filter]
  split
  · next hkept =>
    have hmem := mem_partNames.2 hkept
    rw [← m.get?_of_mem_partNames hmem, ← m'.get?_of_mem_partNames hmem, h name hmem]
  · rfl

theorem names_forPart_subset (m : Metadata) : m.forPart.entries.names ⊆ partNames := by
  intro name hname
  obtain ⟨e, he, rfl⟩ := List.mem_map.1 hname
  exact mem_partNames.2 (List.mem_filter.1 he).2

/-- The headers of the entries that go with a part keep their names. -/
theorem names_toHeaders_subset {m : Metadata} (h : m.entries.names ⊆ partNames) :
    (m.toHeaders .amazonS3).names ⊆ partNames := by
  have hkept : ∀ name ∈ partNames, headerName .amazonS3 name = name := by decide
  refine Table.names_insertAll_subset (List.nil_subset _) ?_
  intro e he
  obtain ⟨entry, hentry, rfl⟩ := List.mem_map.1 he
  have hname : entry.1 ∈ partNames := h (List.mem_map_of_mem hentry)
  rw [hkept entry.1 hname]
  exact hname

end Metadata

/-- The names that the headers of a part's request may have. -/
def Identity.partHeaderNames (i : Identity) : List String :=
  Metadata.standardNames ++ i.headers.names ++
    ["host", "x-amz-date", Metadata.payloadDigestName, "authorization"]

namespace Sender

variable {s : Sender} {d : Descriptor}

theorem names_withLength_subset {headers : Table String} {names : List String}
    (h : headers.names ⊆ names) (hlength : "content-length" ∈ names) :
    (withLength d headers).names ⊆ names := by
  unfold withLength
  split
  · exact Table.names_erase_subset h
  · exact Table.names_insert_subset h hlength

theorem names_unsignedHeaders_subset (hprofile : s.endpoint.profile = .amazonS3)
    (hmetadata : d.metadata.entries.names ⊆ Metadata.partNames) :
    (s.unsignedHeaders d).names ⊆ s.identity.partHeaderNames := by
  have hstandard : Metadata.standardNames ⊆ s.identity.partHeaderNames :=
    fun name hname => List.mem_append_left _ (List.mem_append_left _ hname)
  have hparts : Metadata.partNames ⊆ s.identity.partHeaderNames := by
    refine List.cons_subset.2 ⟨List.mem_append_right _ ?_, hstandard⟩
    decide
  have hheaders := List.Subset.trans (Metadata.names_toHeaders_subset hmetadata) hparts
  rw [← hprofile] at hheaders
  refine Table.names_insertAll_subset (names_withLength_subset
    (Table.names_erase_subset hheaders) (hstandard (by decide))) ?_
  intro e he
  exact List.mem_append_left _ (List.mem_append_right _ (List.mem_map_of_mem he))

/-- A request with no other metadata than a part's has no other headers than a part's. -/
theorem names_build_subset (hprofile : s.endpoint.profile = .amazonS3) (now : Moment)
    (hmetadata : d.metadata.entries.names ⊆ Metadata.partNames) :
    (s.build now d).headers.names ⊆ s.identity.partHeaderNames := by
  have hunsigned := names_unsignedHeaders_subset hprofile hmetadata
  have hadded : ∀ name ∈ ["host", "x-amz-date", Metadata.payloadDigestName, "authorization"],
      name ∈ s.identity.partHeaderNames := fun name hname => List.mem_append_right _ hname
  unfold build
  split
  · next signer _ =>
    -- the signer adds the four names one after the other
    refine Table.names_insert_subset ?_ (hadded "authorization" (by decide))
    refine Table.names_insert_subset ?_ (hadded Metadata.payloadDigestName (by decide))
    refine Table.names_insert_subset ?_ (hadded "x-amz-date" (by decide))
    exact Table.names_insert_subset hunsigned (hadded "host" (by decide))
  · exact hunsigned

end Sender

namespace Client

variable (c : Client) (u : Upload) (number : UInt32) (body : PartBody)

theorem uploadPart_eq_of_agree {m m' : Metadata} (h : m.AgreeForPart m') :
    c.uploadPart u number { metadata := m, body } =
      c.uploadPart u number { metadata := m', body } := by
  have hdescriptor : partDescriptor u number m = partDescriptor u number m' := by
    funext content
    simp only [partDescriptor, Metadata.forPart_eq_of_agree h]
  simp only [uploadPart, hdescriptor]

/-- **Metadata stays out of the requests of parts.** -/
theorem confined_uploadPart {m m' : Metadata} (h : m.AgreeForPart m') :
    c.uploadPart u number { metadata := m, body } =
        c.uploadPart u number { metadata := m', body } ∧
      (c.profile = .amazonS3 →
        Operation.Sends (fun q => q.headers.names ⊆ c.identity.partHeaderNames)
          (c.uploadPart u number { metadata := m, body })) := by
  refine ⟨c.uploadPart_eq_of_agree u number body h, fun hprofile => sends_uploadPart ?_⟩
  intro content
  exact Sender.names_build_subset hprofile c.now m.names_forPart_subset

/-- Metadata with a storage class, an access rule and an entry of the user's own. -/
def objectMetadata : Metadata :=
  .ofList [("Content-Type", "text/plain"), ("x-amz-storage-class", "GLACIER"),
    ("x-amz-acl", "public-read"), ("project", "apollo")]

/-- A client that signs and pays. -/
def payingClient : Client :=
  ofConfig { credentials := .session "AKID" "secret" "token", requesterPays := true }
    ⟨2024, 3, 5, 7, 8, 9, 2⟩

/-- Two parts with different metadata, whose requests are the same. -/
theorem confined_objectMetadata :
    ∃ q next,
      (payingClient.uploadPart { uploadId := "u", bucket := "b", key := "k" } 1
          { metadata := objectMetadata, body := .bytes [120] }).run = .ask q next ∧
        (payingClient.uploadPart { uploadId := "u", bucket := "b", key := "k" } 1
          { metadata := .ofList [("content-type", "text/plain"),
              ("x-amz-server-side-encryption", "AES256")],
            body := .bytes [120] }).run = .ask q next ∧
        q.headers.names = ["authorization", "content-length", "content-type", "host",
          "x-amz-content-sha256", "x-amz-date", "x-amz-request-payer", "x-amz-security-token"] ∧
        q.headers.names ⊆ payingClient.identity.partHeaderNames := by
  have hagree : objectMetadata.AgreeForPart (.ofList [("content-type", "text/plain"),
      ("x-amz-server-side-encryption", "AES256")]) := by
    unfold Metadata.AgreeForPart
    decide +kernel
  obtain ⟨hsame, hnames⟩ := payingClient.confined_uploadPart
    { uploadId := "u", bucket := "b", key := "k" } 1 (.bytes [120]) hagree
  have hrun : (payingClient.uploadPart { uploadId := "u", bucket := "b", key := "k" } 1
      { metadata := objectMetadata, body := .bytes [120] }).run = .ask _ _ :=
    run_uploadPart rfl rfl
  have hsent := hnames rfl
  rw [Operation.Sends, hrun] at hsent
  cases hsent with
  | ask hasked _ => exact ⟨_, _, hrun, hsame ▸ hrun, by decide +kernel, hasked⟩

end Client

end ObjectStore
