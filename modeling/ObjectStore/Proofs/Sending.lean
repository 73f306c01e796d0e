import ObjectStore.Proofs.Listing.Attempts
import ObjectStore.Proofs.Upload.Numbers
/-!
# What a client sends

Whatever its exchanges come to, a client is sparing with requests (`Client.sparing_of_exchanged`):
most operations send one at most, nothing is sent for arguments that are refused, and a listing
sends a request again only if it broke.

The last holds of a listing that starts at markers which it can send.  The pager compares both
markers of a page with those that it asked with, and a listing with one marker sends the first
only, so a second one at the start hides that the first does not advance
(`Client.listObjects_again_behind_stalePage`).
-/

namespace ObjectStore.Client

open Listing

/-- What a client keeps to, whatever its exchanges come to. -/
structure Sparing (c : Client) (answers : List (Except Fault Http.Response)) : Prop where
  /-- What is neither a listing nor the upload of a file sends one request at most, -/
  single : ∀ {α : Type} {op : Operation α}, c.Single op → (op.run.replay answers).1.length ≤ 1
  /-- and none if its arguments are refused. -/
  refused : ∀ {α : Type} {op : Operation α} {m : Misuse}, c.Single op →
    (op.run.replay answers).2.2 = some (.error (.invalidArgument m)) →
      (op.run.replay answers).1 = []
  /-- A listing sends nothing if its arguments are refused, -/
  refused_listing : ∀ {α : Type} {plan : Plan} {op : Operation (Chunk α)} {m : Misuse},
    c.Lists plan op → (op.run.replay answers).2.2 = some (.error (.invalidArgument m)) →
      (op.run.replay answers).1 = []
  /-- nor does the upload of a file, -/
  refused_file : ∀ {bucket key : String} {file : Except InputFault LocalFile}
    {props : ObjectProperties} {plan : PartPlan} {requests : List Http.Request}
    {rest : List (Except Fault Http.Response)} {outcome : Except Fault FileUpload} {m : Misuse},
    (c.uploadFile bucket key file props plan).run.replay answers =
      (requests, rest, some outcome) →
    outcome.bind FileUpload.result = .error (.invalidArgument m) → requests = []
  /-- in whatever order its parts go on. -/
  refused_schedule : ∀ {bucket key : String} {file : Except InputFault LocalFile}
    {props : ObjectProperties} {plan : PartPlan} {requests : List Http.Request}
    {outcome : Except Fault FileUpload} {m : Misuse},
    c.Uploads bucket key file props plan requests outcome →
    outcome.bind FileUpload.result = .error (.invalidArgument m) → requests = []
  /-- A listing attempts a page again only if the attempt before broke. -/
  attempts : ∀ {α : Type} {plan : Plan} {op : Operation (Chunk α)}, c.Lists plan op →
    c.Attempts plan answers (op.run.replay answers).1

/-- **A client is sparing with requests.** -/
theorem sparing_of_exchanged (c : Client) {answers : List (Except Fault Http.Response)}
    (hanswers : ∀ answer ∈ answers, Exchanged answer) : c.Sparing answers where
  single h := (h.guarded.replay hanswers).1
  refused h := (h.guarded.replay hanswers).2 _
  refused_listing h := (h.guarded.replay hanswers).2 _
  refused_file hreplay := (uploads_of_replay hanswers hreplay).eq_nil_of_refused
  refused_schedule h := h.eq_nil_of_refused
  attempts h := attempts_of_lists h hanswers

/-- An exchange that fails, a page that breaks off and a response with another status: the request
for the first page is sent three times. -/
theorem sparing_of_three_attempts :
    (((ofConfig {} ⟨2024, 3, 5, 7, 8, 9, 2⟩).listVersions "b" {} .merge).run.replay
        [.error (.transport .connectionReset),
          .ok { status := 200, headers := [],
                body := { pieces := [utf8 "<ListVersionsResult>"],
                          fault := some .connectionReset } },
          .ok { status := 503, headers := [], body := { pieces := [] } }]).1.map
        (fun q => (q.method, q.url)) =
      [(.get, "https://s3.amazonaws.com/b/?versions="),
        (.get, "https://s3.amazonaws.com/b/?versions="),
        (.get, "https://s3.amazonaws.com/b/?versions=")] ∧
    (ofConfig {} ⟨2024, 3, 5, 7, 8, 9, 2⟩).Sparing
      [.error (.transport .connectionReset),
        .ok { status := 200, headers := [],
              body := { pieces := [utf8 "<ListVersionsResult>"], fault := some .connectionReset } },
        .ok { status := 503, headers := [], body := { pieces := [] } }] := by
  refine ⟨by decide +kernel, sparing_of_exchanged _ ?_⟩
  intro answer hanswer
  simp only [List.mem_cons, List.not_mem_nil, or_false] at hanswer
  rcases hanswer with rfl | rfl | rfl
  · exact .failed _
  · exact .answered _
  · exact .answered _

/-- A page of objects that says to go on at `A`. -/
def stalePage : Http.Response :=
  { status := 200, headers := [],
    body := { pieces := [utf8 ("<ListBucketResult><IsTruncated>true</IsTruncated>" ++
      "<NextContinuationToken>A</NextContinuationToken></ListBucketResult>")] } }

/-- The page was asked for with `A` and was read to its end, and the request is sent again: the
listing was to start at `A` and at a second marker, which it does not send. -/
theorem listObjects_again_behind_stalePage :
    (((ofConfig {} ⟨2024, 3, 5, 7, 8, 9, 2⟩).listObjects "b"
        { markers := { primary := some "A", secondary := some "x" } } .merge).run.replay
        [.ok stalePage, .ok stalePage]).1.map
        (fun q => (q.method, q.url, q.headers.entries, q.body.length)) =
      [(.get, "https://s3.amazonaws.com/b/?continuation-token=A&list-type=2", [], 0),
        (.get, "https://s3.amazonaws.com/b/?continuation-token=A&list-type=2", [], 0)] ∧
    ¬Breaks (.ok stalePage) :=
  ⟨by decide +kernel, not_breaks_of_collect rfl⟩

end ObjectStore.Client
