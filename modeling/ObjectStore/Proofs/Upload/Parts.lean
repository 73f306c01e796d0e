import ObjectStore.Proofs.Upload.Cut
import ObjectStore.Proofs.Upload.Requests
/-!
# What the parts of a file send

The part at an index of a file either fails before it sends anything, when its range cannot be
opened, or it is one exchange: a request with the bytes of its slice under its number, and a
part made of the answer to that request (`partDialogue_partOperation`).
-/

namespace ObjectStore

variable {content : Bytes} {cut : FileCut} {u : Upload}

/-- The request for the part at an index of a file. -/
structure SendsPart (content : Bytes) (partSize : Nat) (u : Upload) (index : Nat)
    (q : Http.Request) : Prop where
  method : q.method = .put
  number : q.Carries "partNumber" (toString (index + 1))
  upload : q.Carries "uploadId" u.uploadId
  body : q.body.collect = .ok (slice content partSize index)
  length : q.body.length = (slice content partSize index).length

/-- The part at an index of a file, as the answer to its request describes it. -/
structure Describes (content : Bytes) (partSize index : Nat)
    (answer : Except Fault Http.Response) (part : Part) : Prop where
  number : part.number.toNat = index + 1
  size : part.size.map UInt64.toNat = some (slice content partSize index).length
  etag : ∃ r etag, answer = .ok r ∧ r.header? "etag" = some etag ∧ part.etag = trimQuotes etag

/-- The dialogue of the part at an index of a file: no exchange at all, or one. -/
inductive PartDialogue (content : Bytes) (partSize : Nat) (u : Upload) (index : Nat) :
    Dialogue Http.Request (Except Fault Http.Response) (Except Fault Part) → Prop where
  | unopened (f : Fault) : PartDialogue content partSize u index (.done (.error f))
  | exchange {q : Http.Request} {result : Except Fault Http.Response → Except Fault Part}
      (hrequest : SendsPart content partSize u index q)
      (hresult : ∀ answer part, result answer = .ok part →
        Describes content partSize index answer part) :
      PartDialogue content partSize u index (.ask q fun answer => .done (result answer))

namespace Client

/-- A part that was uploaded has the entity tag of the answer to its own request. -/
theorem part_of_drained {d : Descriptor} {number : UInt32} {length : UInt64}
    {answer : Except Fault Http.Response} {part : Part}
    (h : (drained d answer).bind (partOfResponse u number length) = .ok part) :
    part.number = number ∧ part.size = some length ∧
      ∃ r etag, answer = .ok r ∧ r.header? "etag" = some etag ∧ part.etag = trimQuotes etag := by
  rcases hr : drained d answer with f | r
  · rw [hr] at h
    cases h
  · rw [hr] at h
    have h : partOfResponse u number length r = .ok part := h
    unfold partOfResponse at h
    split at h
    · next etag hetag =>
      cases h
      exact ⟨rfl, rfl, r, etag, (drained_eq_ok_iff.1 hr).1, hetag, rfl⟩
    · cases h

end Client

/-- **A part sends its slice under its number.** -/
theorem partDialogue_partOperation (client : Client) (hexact : cut.Exact)
    (hcontent : content.length = cut.fileSize.toNat) {i : UInt64} (hi : i < cut.count) :
    PartDialogue content cut.partSize.toNat u i.toNat
      (UploadJob.partOperation client (LocalFile.ofBytes content) cut u i).run := by
  have hnumber := hexact.number i hi
  have hcheck := hexact.checkPartNumber hi
  have hslice : (content.drop (cut.offset i).toNat).take (cut.length i).toNat =
      slice content cut.partSize.toNat i.toNat := by
    rw [slice_eq, hexact.offset i hi, hexact.length i hi, ← hcontent, List.take_eq_take_iff,
      List.length_drop]
    omega
  have hlength : (cut.length i).toNat = (slice content cut.partSize.toNat i.toNat).length := by
    rw [length_slice, hexact.length i hi, hcontent]
  by_cases hopen : cut.offset i < LocalFile.offsetLimit
  · have hsource : PartSource.ofFile (LocalFile.ofBytes content) (cut.offset i) (cut.length i) =
        .ok { body := .stream (some (cut.length i))
                { pieces := [slice content cut.partSize.toNat i.toNat] } } := by
      simp only [PartSource.ofFile, LocalFile.ofBytes, if_pos hopen, hslice]
      rfl
    have hrun : (UploadJob.partOperation client (LocalFile.ofBytes content) cut u i).run =
        (client.uploadPart u (FileCut.number i)
          { body := .stream (some (cut.length i))
              { pieces := [slice content cut.partSize.toNat i.toNat] } }).run := by
      simp only [UploadJob.partOperation, hsource]
      rfl
    rw [hrun, Client.run_uploadPart hcheck rfl]
    refine .exchange ⟨rfl, ?_, ?_, ?_, ?_⟩ ?_
    · rw [← hnumber]
      exact Sender.carries_build _ _ (by decide) ((Table.get?_insert _ _ _ _).trans (if_pos rfl))
    · exact Sender.carries_build _ _ (by decide) (Client.get?_partQuery u _)
    · show Except.ok (List.flatten [slice content cut.partSize.toNat i.toNat]) = _
      rw [List.flatten_singleton]
    · exact hlength
    · intro answer part hpart
      obtain ⟨hpartNumber, hsize, hetag⟩ := Client.part_of_drained hpart
      refine ⟨?_, ?_, hetag⟩
      · rw [hpartNumber, hnumber]
      · rw [hsize, Option.map_some, hlength]
  · have hsource : PartSource.ofFile (LocalFile.ofBytes content) (cut.offset i) (cut.length i) =
        .error .farOffset := by
      simp only [PartSource.ofFile, LocalFile.ofBytes, if_neg hopen]
      rfl
    have hrun : (UploadJob.partOperation client (LocalFile.ofBytes content) cut u i).run =
        .done (.error (.input .farOffset)) := by
      simp only [UploadJob.partOperation, hsource]
      rfl
    rw [hrun]
    exact .unopened _

end ObjectStore
