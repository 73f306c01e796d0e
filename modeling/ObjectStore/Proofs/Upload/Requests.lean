import ObjectStore.Proofs.Exchange
import ObjectStore.Proofs.QueryText
import ObjectStore.Proofs.Table
import ObjectStore.Upload.Coordinator
/-!
# The requests of an upload

Each request that a call on an upload sends names the upload: `uploadId=` and the identifier,
encoded, are a piece of its query string, whatever the responses (`sends_operation`).

Parts, completions and abortions are single exchanges.  `run_uploadPart`, `run_completeUpload`
and `run_abortUpload` say which request each of them sends and what it makes of the answer.
-/

namespace ObjectStore

theorem Http.Body.collect_ofBytes (b : Bytes) : (ofBytes b).collect = .ok b := by
  rw [ofBytes]
  split
  · next h => rw [List.isEmpty_iff.1 h]; rfl
  · rfl

/-- The query string of the URL, behind its last question mark, has a piece that gives the
parameter the value. -/
def Http.Request.Carries (name value : String) (q : Http.Request) : Prop :=
  ∃ target pieces, q.url = target ++ "?" ++ "&".intercalate pieces ∧
    (∀ piece ∈ pieces, '?' ∉ piece.toList) ∧
    name ++ "=" ++ Percent.encode .encoded value ∈ pieces

/-- A query string that is not empty follows a question mark. -/
theorem Address.url_of_ne_empty (a : Address) {query : String} (h : query ≠ "") :
    a.url query = a.url "" ++ "?" ++ query := by
  have hquery : query.isEmpty = false := by simpa using h
  have hnone : "".isEmpty = true := rfl
  simp only [url, hquery, hnone, Bool.false_eq_true, if_false, if_true, String.append_empty,
    String.append_assoc]

theorem Sender.carries_build (s : Sender) (now : Moment) {d : Descriptor} {name value : String}
    (hname : (utf8 name).all (Percent.isLiteral .encoded) = true)
    (h : d.query.parameters.get? name = some (some value)) :
    (s.build now d).Carries name value := by
  have hmem := Table.mem_entries_of_get? h
  have hne : d.query.parameters.entries ≠ [] := List.ne_nil_of_mem hmem
  refine ⟨(s.endpoint.resolve d.bucket d.key).url "", d.query.pieces, ?_, ?_, ?_⟩
  · rw [← Query.text_eq]
    exact Address.url_of_ne_empty _ (Query.text_ne_empty hne)
  · intro piece hpiece
    obtain ⟨p, _, rfl⟩ := List.mem_map.1 hpiece
    exact Query.notMem_piece (by decide) (by decide) p
  · refine List.mem_map.2 ⟨(name, some value), hmem, ?_⟩
    simp only [Query.piece, Query.encodedPair, Percent.encode_of_literal hname, Option.getD_some]

namespace Client

open Operation

variable {c : Client} {u : Upload}

theorem get?_uploadQuery (u : Upload) :
    (uploadQuery u).parameters.get? "uploadId" = some (some u.uploadId) :=
  (Table.get?_insert _ _ _ _).trans (if_pos rfl)

theorem get?_partQuery (u : Upload) (number : UInt32) :
    (partQuery u number).parameters.get? "uploadId" = some (some u.uploadId) :=
  (Table.get?_insert _ _ _ _).trans ((if_neg (by decide)).trans (get?_uploadQuery u))

theorem sends_uploadPart {P : Http.Request → Prop} {number : UInt32} {source : PartSource}
    (h : ∀ body, P (c.sender.build c.now (partDescriptor u number source.metadata body))) :
    Sends P (c.uploadPart u number source) := by
  refine (sends_lift _).bind fun _ => (sends_lift _).bind fun (body, length) => ?_
  exact (sends_dispatchAndDrain (h body)).bind fun r => sends_lift _

theorem sends_copyPart (number : UInt32) (source : PartCopySource) :
    Sends (Http.Request.Carries "uploadId" u.uploadId) (c.copyPart u number source) := by
  refine (sends_lift _).bind fun _ => (sends_lift _).bind fun range => ?_
  refine (sends_fetch ?_ _ _).bind fun outcome => (sends_lift _).bind fun r => sends_pure _
  exact Sender.carries_build _ _ (by decide) (get?_partQuery u number)

theorem sends_completeUpload {P : Http.Request → Prop} (parts : List Part)
    (h : ∀ ordered, P (c.sender.build c.now (completionDescriptor u ordered))) :
    Sends P (c.completeUpload u parts) := by
  refine (sends_lift _).bind fun ordered => (sends_dispatch (h ordered)).bind fun r =>
    (sends_lift _).bind fun outcome => ?_
  cases outcome with
  | success doc => exact sends_pure _
  | failed f => exact sends_throw _

theorem sends_abortUpload :
    Sends (Http.Request.Carries "uploadId" u.uploadId) (c.abortUpload u) := by
  refine (sends_dispatchAndDrain ?_).bind fun r => sends_pure ()
  exact Sender.carries_build _ _ (by decide) (get?_uploadQuery u)

/-! ### Single exchanges -/

theorem run_uploadPart {number : UInt32} {source : PartSource} {body : Http.Body}
    {length : UInt64} (hnumber : checkPartNumber number = .ok ())
    (hbody : partBody source.body = .ok (body, length)) :
    (c.uploadPart u number source).run =
      .ask (c.sender.build c.now (partDescriptor u number source.metadata body)) fun answer =>
        .done ((drained (partDescriptor u number source.metadata body) answer).bind
          (partOfResponse u number length)) := by
  have hrun : (c.uploadPart u number source).run =
      (c.dispatchAndDrain (partDescriptor u number source.metadata body) >>=
        fun r => Operation.lift (partOfResponse u number length r)).run := by
    simp only [uploadPart, hnumber, hbody]
    rfl
  rw [hrun]
  exact run_bind_of_exchange (run_dispatchAndDrain _) fun _ => rfl

/-- The upload of a part that sends a request has arguments that are not refused. -/
theorem run_uploadPart_of_sent {number : UInt32} {source : PartSource} {q : Http.Request}
    {next : Except Fault Http.Response → Dialogue Http.Request (Except Fault Http.Response)
      (Except Fault Part)}
    (hsent : (c.uploadPart u number source).run = .ask q next) :
    ∃ body length, (c.uploadPart u number source).run =
      .ask (c.sender.build c.now (partDescriptor u number source.metadata body)) fun answer =>
        .done ((drained (partDescriptor u number source.metadata body) answer).bind
          (partOfResponse u number length)) := by
  obtain ⟨_, hnumber, hrest⟩ := exists_ok_of_sent hsent
  obtain ⟨⟨body, length⟩, hbody, _⟩ := exists_ok_of_sent hrest
  exact ⟨body, length, run_uploadPart hnumber hbody⟩

/-- The request that gives up an upload. -/
def abortionDescriptor (u : Upload) : Descriptor :=
  { method := .delete, bucket := some u.bucket, key := some u.key, query := uploadQuery u,
    expected := [204, 200] }

theorem run_abortUpload :
    (c.abortUpload u).run =
      .ask (c.sender.build c.now (abortionDescriptor u)) fun answer =>
        .done ((drained (abortionDescriptor u) answer).map fun _ => ()) := by
  refine (run_bind_of_exchange (run_dispatchAndDrain (abortionDescriptor u))
    (g := fun _ => .ok ()) fun _ => rfl).trans ?_
  refine congrArg (Dialogue.ask _) (funext fun answer => ?_)
  rcases drained (abortionDescriptor u) answer with f | r
  · rfl
  · rfl

/-- What an upload became, by the response to the completion with the given parts. -/
def completedBy (u : Upload) (ordered : List Part) (r : Http.Response) : Except Fault Completed :=
  let context := (completionDescriptor u ordered).context
  match readBody .completion context Completion.read r with
  | .error f => .error f
  | .ok (.failed f) => .error (.completionFailed context { f with context := context })
  | .ok (.success doc) =>
    .ok { location := doc.location,
          bucket := if doc.bucket.isEmpty then u.bucket else doc.bucket,
          key := if doc.key.isEmpty then u.key else doc.key,
          etag := doc.etag,
          versionId := r.header? "x-amz-version-id",
          parts := ordered }

theorem run_completeUpload_of_error {parts : List Part} {f : Fault}
    (h : orderedParts parts = .error f) :
    (c.completeUpload u parts).run = .done (.error f) := by
  simp only [completeUpload, h]
  rfl

theorem run_completeUpload {parts ordered : List Part} (h : orderedParts parts = .ok ordered) :
    (c.completeUpload u parts).run =
      .ask (c.sender.build c.now (completionDescriptor u ordered)) fun answer =>
        .done ((answer.bind (accept (completionDescriptor u ordered))).bind
          (completedBy u ordered)) := by
  simp only [completeUpload, h]
  refine run_bind_of_exchange (run_dispatch (completionDescriptor u ordered)) fun r => ?_
  rw [completedBy]
  rcases readBody .completion (completionDescriptor u ordered).context Completion.read r with
    f | outcome
  · rfl
  · cases outcome with
    | success doc => rfl
    | failed f => rfl

end Client

/-- **A call names its upload in each request it sends.** -/
theorem Coordinator.Call.sends_operation (client : Client) (u : Upload) (call : Coordinator.Call) :
    Operation.Sends (Http.Request.Carries "uploadId" u.uploadId) (call.operation client u) := by
  cases call with
  | uploadPart number source =>
    refine (Client.sends_uploadPart fun body => ?_).map _
    exact Sender.carries_build _ _ (by decide) (Client.get?_partQuery u number)
  | copyPart number source => exact (Client.sends_copyPart number source).map _
  | complete parts =>
    refine (Client.sends_completeUpload parts fun ordered => ?_).map _
    exact Sender.carries_build _ _ (by decide) (Client.get?_uploadQuery u)
  | abort => exact Client.sends_abortUpload.map _

end ObjectStore
