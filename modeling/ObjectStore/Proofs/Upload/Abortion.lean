import ObjectStore.Proofs.Upload.Transfer
/-!
# Uploads that are given up

A transfer that is over has given its upload up exactly if a part of it failed, whether the
part's range could not be read or its request came to nothing (`Transfer.over_of_schedule`).  A
failed completion is no failed part: the fault is handed back and the upload stays open.

This holds of every file, also of one whose ranges cannot be opened, and of every schedule.
The invariant `Transfer.Orderly` is what that needs of a transfer: which part has failed, and
that parts and completions send no deletion.
-/

namespace ObjectStore

/-- The request gives the upload up. -/
structure Http.Request.GivesUp (u : Upload) (q : Http.Request) : Prop where
  method : q.method = .delete
  upload : q.Carries "uploadId" u.uploadId

namespace Client

open Operation

variable {client : Client} {job : UploadJob} {u : Upload}

theorem givesUp_abortion (client : Client) (u : Upload) :
    (client.sender.build client.now (abortionDescriptor u)).GivesUp u :=
  ⟨rfl, Sender.carries_build _ _ (by decide) (get?_uploadQuery u)⟩

theorem sends_partOperation (file : LocalFile) (cut : FileCut) (index : UInt64) :
    Sends (fun q => q.method = .put) (UploadJob.partOperation client file cut u index) :=
  (sends_lift _).bind fun _ => sends_uploadPart fun _ => rfl

theorem sends_completeJob (job : UploadJob) :
    Sends (fun q => q.method = .post) (client.completeJob job) := by
  unfold completeJob
  split
  · exact sends_throw _
  · exact sends_completeUpload _ fun _ => rfl

theorem run_closeJob_of_none (hfailure : job.failure = none) :
    (client.closeJob job).run = (client.completeJob job).run.bind fun result =>
      .done (.ok { result, parts := job.finished }) := by
  simp only [closeJob, hfailure]
  rw [run_settled_bind]
  rfl

theorem sends_closeJob (hfailure : job.failure = none) :
    Sends (fun q => q.method = .post) (client.closeJob job) := by
  unfold Sends
  rw [run_closeJob_of_none hfailure]
  exact Dialogue.Asks.bind (sends_completeJob job) fun _ => .done _

end Client

namespace Transfer

/-- All that was sent for the parts and to close the upload. -/
def requests (t : Transfer) : List Http.Request :=
  t.runs.flatMap PartRun.sent ++ t.closingSent

/-- The job belongs to the upload and has the fault of the part that failed, the parts send
nothing but uploads, and the closing dialogue is the one that the job calls for. -/
structure Orderly (client : Client) (u : Upload) (t : Transfer) : Prop where
  upload : t.job.coordinator.upload = some u
  stage : t.job.coordinator.stage.isOpen = true
  parts : ∀ p ∈ t.runs, ∃ whole : Dialogue _ _ _,
    whole.Asks (fun q => q.method = .put) ∧ p.dialogue.History whole p.sent p.answers
  faults : t.runs.filterMap PartRun.fault? = t.job.failure.toList
  closing : (t.closing = none ∧ t.closingSent = []) ∨
    ∃ d answers, t.closing = some d ∧ d.History (client.closeJob t.job).run t.closingSent answers

variable {client : Client} {file : LocalFile} {u : Upload} {t t' : Transfer}

theorem orderly_start (u : Upload) (cut : FileCut) (plan : PartPlan) :
    Orderly client u { job := UploadJob.start u cut plan } where
  upload := rfl
  stage := rfl
  parts := fun _ h => nomatch h
  faults := rfl
  closing := .inl ⟨rfl, rfl⟩

theorem Orderly.not_closed (h : t.Orderly client u) (hclosing : t.closing = none) :
    t.closingSent = [] := by
  rcases h.closing with ⟨_, hsent⟩ | ⟨d, answers, hsome, _⟩
  · exact hsent
  · rw [hclosing] at hsome
    cases hsome

theorem Orderly.begin (h : t.Orderly client u) (hstep : t.step client file .begin = some t') :
    t'.Orderly client u := by
  obtain ⟨hclosing, hfailure, _, _, u', hu, rfl⟩ := step_begin hstep
  refine ⟨h.upload, rfl, ?_, ?_, .inl ⟨hclosing, h.not_closed hclosing⟩⟩
  · intro p hp
    rcases List.mem_append.1 hp with hold | hnew
    · exact h.parts p hold
    · obtain rfl := List.mem_singleton.1 hnew
      exact ⟨_, Client.sends_partOperation file t.job.cut t.job.next, .start⟩
  · rw [List.filterMap_append]
    show _ ++ [] = t.job.failure.toList
    rw [List.append_nil]
    exact h.faults

/-- A part that goes on with its dialogue. -/
theorem Orderly.goOn {i : Nat} {p p' : PartRun} (h : t.Orderly client u)
    (hclosing : t.closing = none) (hp : t.runs[i]? = some p) (hresult : p'.result = p.result)
    (hp' : ∀ whole, p.dialogue.History whole p.sent p.answers →
      p'.dialogue.History whole p'.sent p'.answers) :
    Orderly client u { t with runs := t.runs.set i p' } := by
  refine ⟨h.upload, h.stage, ?_, ?_, .inl ⟨hclosing, h.not_closed hclosing⟩⟩
  · intro q hq
    rcases List.mem_or_eq_of_mem_set hq with hold | rfl
    · exact h.parts q hold
    · obtain ⟨whole, hasks, hhistory⟩ := h.parts p (List.mem_of_getElem? hp)
      exact ⟨whole, hasks, hp' whole hhistory⟩
  · exact (PartRun.filterMap_fault?_set hp hresult).trans h.faults

theorem Orderly.finish {i : Nat} (h : t.Orderly client u)
    (hstep : t.step client file (.finish i) = some t') : t'.Orderly client u := by
  obtain ⟨hclosing, hfailure, p, result, hp, hnone, _, rfl⟩ := step_finish hstep
  obtain ⟨_, hcoordinator, _⟩ := UploadJob.finishPart_keeps t.job i.toUInt64 result
  obtain ⟨_, hfault⟩ := UploadJob.finishPart_counts hfailure i.toUInt64 result
  refine ⟨?_, ?_, ?_, ?_, .inl ⟨hclosing, h.not_closed hclosing⟩⟩
  · simp only [hcoordinator]
    exact h.upload
  · simp only [hcoordinator]
    exact h.stage
  · intro q hq
    rcases List.mem_or_eq_of_mem_set hq with hold | rfl
    · exact h.parts q hold
    · exact h.parts p (List.mem_of_getElem? hp)
  · have hfaults := h.faults
    rw [hfailure] at hfaults
    simp only [hfault]
    exact PartRun.filterMap_fault?_finish hp hnone hfaults result

theorem Orderly.step {event : Event} (h : t.Orderly client u)
    (hstep : t.step client file event = some t') : t'.Orderly client u := by
  cases event with
  | begin => exact h.begin hstep
  | send i =>
    obtain ⟨hclosing, _, p, request, dialogue, hp, hsend, rfl⟩ := step_send hstep
    exact h.goOn hclosing hp rfl fun _ hhistory => hhistory.send hsend
  | answer i answer =>
    obtain ⟨hclosing, _, p, dialogue, hp, hanswer, rfl⟩ := step_answer hstep
    exact h.goOn hclosing hp rfl fun _ hhistory => hhistory.answer hanswer
  | finish i => exact h.finish hstep
  | close =>
    obtain ⟨hclosing, _, rfl⟩ := step_close hstep
    refine ⟨h.upload, h.stage, h.parts, h.faults, .inr ⟨_, [], rfl, ?_⟩⟩
    rw [h.not_closed hclosing]
    exact .start
  | sendClosing =>
    obtain ⟨d, request, d', hd, hsend, rfl⟩ := step_sendClosing hstep
    rcases h.closing with ⟨hnone, _⟩ | ⟨d₀, answers, hsome, hhistory⟩
    · rw [hnone] at hd
      cases hd
    · rw [hsome] at hd
      cases hd
      exact ⟨h.upload, h.stage, h.parts, h.faults, .inr ⟨d', _, rfl, hhistory.send hsend⟩⟩
  | answerClosing answer =>
    obtain ⟨d, d', hd, hanswer, rfl⟩ := step_answerClosing hstep
    rcases h.closing with ⟨hnone, _⟩ | ⟨d₀, answers, hsome, hhistory⟩
    · rw [hnone] at hd
      cases hd
    · rw [hsome] at hd
      cases hd
      exact ⟨h.upload, h.stage, h.parts, h.faults, .inr ⟨d', _, rfl, hhistory.answer hanswer⟩⟩

theorem Orderly.run {events : List Event} (h : t.Orderly client u)
    (hrun : t.run client file events = some t') : t'.Orderly client u := by
  induction events generalizing t with
  | nil =>
    cases hrun
    exact h
  | cons event events ih =>
    rw [Transfer.run, Option.bind_eq_bind, Option.bind_eq_some_iff] at hrun
    obtain ⟨next, hstep, hrest⟩ := hrun
    exact ih (h.step hstep) hrest

/-! ### A transfer that is over -/

theorem Orderly.failure_eq_some (h : t.Orderly client u) {p : PartRun} (hp : p ∈ t.runs)
    {f : Fault} (hf : p.fault? = some f) : t.job.failure = some f := by
  have hmem : f ∈ t.runs.filterMap PartRun.fault? := List.mem_filterMap.2 ⟨p, hp, hf⟩
  rw [h.faults] at hmem
  simpa using hmem

theorem Orderly.part_put (h : t.Orderly client u) {q : Http.Request}
    (hq : q ∈ t.runs.flatMap PartRun.sent) : q.method = .put := by
  obtain ⟨p, hp, hsent⟩ := List.mem_flatMap.1 hq
  obtain ⟨whole, hasks, hhistory⟩ := h.parts p hp
  exact (hhistory.asks hasks).2 q hsent

/-- What the closing dialogue of a transfer that is over has sent and come to. -/
theorem Orderly.replay_closing (h : t.Orderly client u)
    {outcome : Except Fault Client.FileUpload} (hover : t.outcome? = some outcome) :
    ∃ answers, (client.closeJob t.job).run.replay answers = (t.closingSent, [], some outcome) := by
  obtain ⟨d, hd, hvalue⟩ := Option.bind_eq_some_iff.1 hover
  rcases h.closing with ⟨hnone, _⟩ | ⟨d₀, answers, hsome, hhistory⟩
  · rw [hnone] at hd
    cases hd
  · rw [hsome] at hd
    cases hd
    exact ⟨answers, hhistory.replay_of_value hvalue⟩

theorem Orderly.over_failed (h : t.Orderly client u) {outcome : Except Fault Client.FileUpload}
    (hover : t.outcome? = some outcome) {f : Fault} (hfailure : t.job.failure = some f) :
    outcome = .ok { result := .error f, parts := t.job.finished } ∧
      ∃ q ∈ t.closingSent, q.GivesUp u := by
  obtain ⟨answers, hreplay⟩ := h.replay_closing hover
  rw [Client.run_closeJob_failed hfailure h.upload h.stage] at hreplay
  cases answers with
  | nil =>
    rw [Dialogue.replay] at hreplay
    cases (Prod.mk.inj (Prod.mk.inj hreplay).2).2
  | cons answer answers =>
    rw [Dialogue.replay, Dialogue.replay] at hreplay
    obtain ⟨hsent, _, houtcome⟩ := Prod.mk.inj hreplay |>.imp_right Prod.mk.inj
    refine ⟨(Option.some.inj houtcome).symm, _, ?_, Client.givesUp_abortion client u⟩
    rw [← hsent]
    exact List.mem_singleton_self _

theorem Orderly.over_completed (h : t.Orderly client u)
    {outcome : Except Fault Client.FileUpload} (hover : t.outcome? = some outcome)
    (hfailure : t.job.failure = none) :
    ∃ result answers, outcome = .ok { result, parts := t.job.finished } ∧
      (client.completeJob t.job).run.replay answers = (t.closingSent, [], some result) := by
  obtain ⟨answers, hreplay⟩ := h.replay_closing hover
  rw [Client.run_closeJob_of_none hfailure] at hreplay
  obtain ⟨first, second, left, result, hfirst, hsecond, hsent⟩ :=
    Dialogue.replay_bind_eq_some hreplay
  obtain ⟨rfl, hleft, houtcome⟩ := Prod.mk.inj hsecond |>.imp_right Prod.mk.inj
  rw [List.append_nil] at hsent
  refine ⟨result, answers, (Option.some.inj houtcome).symm, ?_⟩
  rw [hsent, ← hleft]
  exact hfirst

theorem Orderly.not_givesUp (h : t.Orderly client u) (hfailure : t.job.failure = none)
    {q : Http.Request} (hq : q ∈ t.requests) : ¬ q.GivesUp u := by
  intro hgives
  rcases List.mem_append.1 hq with hpart | hclosing
  · cases (h.part_put hpart).symm.trans hgives.method
  · rcases h.closing with ⟨_, hnil⟩ | ⟨d, answers, _, hhistory⟩
    · rw [hnil] at hclosing
      cases hclosing
    · have hpost := (hhistory.asks (Client.sends_closeJob hfailure)).2 q hclosing
      cases hpost.symm.trans hgives.method

/-- What can be relied on once a transfer is over. -/
structure Over (client : Client) (u : Upload) (t : Transfer) (upload : Client.FileUpload) :
    Prop where
  givenUp_iff : (∃ q ∈ t.requests, q.GivesUp u) ↔ ∃ p ∈ t.runs, p.fault?.isSome = true
  failed : ∀ p ∈ t.runs, ∀ f, p.fault? = some f → upload.result = .error f
  /-- Without a failed part the result is that of a completion, and nothing follows it. -/
  completed : (∀ p ∈ t.runs, p.fault? = none) → ∃ answers,
    (client.completeJob t.job).run.replay answers = (t.closingSent, [], some upload.result)

theorem Orderly.over (h : t.Orderly client u) {outcome : Except Fault Client.FileUpload}
    (hover : t.outcome? = some outcome) :
    ∃ upload, outcome = .ok upload ∧ t.Over client u upload := by
  rcases hfailure : t.job.failure with _ | f
  · have hnone : ∀ p ∈ t.runs, p.fault? = none := by
      have hfaults := h.faults
      rw [hfailure] at hfaults
      exact List.filterMap_eq_nil_iff.1 hfaults
    obtain ⟨result, answers, rfl, hreplay⟩ := h.over_completed hover hfailure
    refine ⟨_, rfl, ?_, ?_, fun _ => ⟨answers, hreplay⟩⟩
    · constructor
      · rintro ⟨q, hq, hgives⟩
        exact absurd hgives (h.not_givesUp hfailure hq)
      · rintro ⟨p, hp, hfault⟩
        rw [hnone p hp] at hfault
        cases hfault
    · intro p hp f hf
      rw [hnone p hp] at hf
      cases hf
  · have hfailed : ∃ p ∈ t.runs, p.fault? = some f := by
      have hmem : f ∈ t.runs.filterMap PartRun.fault? := by simp [h.faults, hfailure]
      exact List.mem_filterMap.1 hmem
    obtain ⟨p, hp, hf⟩ := hfailed
    obtain ⟨rfl, q, hq, hgives⟩ := h.over_failed hover hfailure
    refine ⟨_, rfl, ?_, ?_, ?_⟩
    · constructor
      · intro _
        exact ⟨p, hp, by rw [hf]; rfl⟩
      · intro _
        exact ⟨q, List.mem_append_right _ hq, hgives⟩
    · intro p' hp' f' hf'
      cases hfailure.symm.trans (h.failure_eq_some hp' hf')
      rfl
    · intro hnone
      rw [hnone p hp] at hf
      cases hf

end Transfer

/-- **An upload is given up exactly if a part of it failed**, for every file and in every
schedule. -/
theorem Transfer.over_of_schedule {client : Client} {file : LocalFile} {cut : FileCut}
    {plan : PartPlan} {u : Upload} {events : List Transfer.Event} {t : Transfer}
    {outcome : Except Fault Client.FileUpload}
    (hrun : Transfer.run client file { job := UploadJob.start u cut plan } events = some t)
    (hover : t.outcome? = some outcome) :
    ∃ upload, outcome = .ok upload ∧ t.Over client u upload :=
  ((Transfer.orderly_start u cut plan).run hrun).over hover

/-- Nothing was sent for the second part, whose range cannot be opened, and the abortion fails
as well. -/
theorem Transfer.over_of_unopened_range :
    ∃ t outcome upload, Transfer.run (Client.ofConfig {} ⟨2024, 3, 5, 7, 8, 9, 2⟩)
        { size := 3, range := fun offset _ =>
            if offset = 0 then .ok { pieces := [[1, 2]] } else .error .farOffset }
        { job := UploadJob.start { uploadId := "VXBsb2FkIElE" } (FileCut.ofPlan 3 { partSize := 2 })
            { partSize := 2 } }
        [.begin, .begin, .send 0, .finish 1, .close, .sendClosing,
          .answerClosing (.error (.input .connectionReset))] = some t ∧
      t.outcome? = some outcome ∧ t.requests.map Http.Request.method = [.put, .delete] ∧
      outcome = .ok upload ∧
      t.Over (Client.ofConfig {} ⟨2024, 3, 5, 7, 8, 9, 2⟩) { uploadId := "VXBsb2FkIElE" }
        upload := by
  obtain ⟨t, hrun, ht⟩ := Option.map_eq_some_iff.1 <| show
    (Transfer.run (Client.ofConfig {} ⟨2024, 3, 5, 7, 8, 9, 2⟩)
        { size := 3, range := fun offset _ =>
            if offset = 0 then .ok { pieces := [[1, 2]] } else .error .farOffset }
        { job := UploadJob.start { uploadId := "VXBsb2FkIElE" } (FileCut.ofPlan 3 { partSize := 2 })
            { partSize := 2 } }
        [.begin, .begin, .send 0, .finish 1, .close, .sendClosing,
          .answerClosing (.error (.input .connectionReset))]).map
      (fun t => (t.outcome?.isSome, t.requests.map Http.Request.method)) =
      some (true, [.put, .delete]) from rfl
  rw [Prod.mk.injEq] at ht
  obtain ⟨outcome, houtcome⟩ := Option.isSome_iff_exists.1 ht.1
  obtain ⟨upload, hupload, hover⟩ := Transfer.over_of_schedule hrun houtcome
  exact ⟨t, outcome, upload, hrun, houtcome, ht.2, hupload, hover⟩

/-- An answer that refuses a completion. -/
def refusedCompletion : Http.Response :=
  ⟨400, [], { pieces := [utf8 "<Error><Code>InvalidPart</Code><Message>no</Message></Error>"] }⟩

/-- A completion that is refused leaves the upload open: the file's one part is uploaded, the
completion is answered with status 400, and that is the end of it. -/
theorem Transfer.not_givenUp_of_failed_completion :
    ∃ t upload, Transfer.run (Client.ofConfig {} ⟨2023, 11, 14, 22, 13, 20, 2⟩)
        (LocalFile.ofBytes [0, 1, 2])
        { job := UploadJob.start { bucket := "b", key := "k", uploadId := "u1" }
            (FileCut.ofPlan 3 { partSize := 10, concurrency := 1 })
            { partSize := 10, concurrency := 1 } }
        [.begin, .send 0, .answer 0 (.ok ⟨200, [("etag", "\"e1\"")], { pieces := [] }⟩),
          .finish 0, .close, .sendClosing, .answerClosing (.ok refusedCompletion)] = some t ∧
      t.outcome? = some (.ok upload) ∧
      upload.result = .error (.service
        { status := 400, code := "InvalidPart", text := "no",
          context := { bucket := some "b", key := some "k", uploadId := some "u1" } }) ∧
      ∀ q ∈ t.requests, ¬ q.GivesUp { bucket := "b", key := "k", uploadId := "u1" } := by
  obtain ⟨t, hrun, ht⟩ := Option.map_eq_some_iff.1 <| show
    (Transfer.run (Client.ofConfig {} ⟨2023, 11, 14, 22, 13, 20, 2⟩) (LocalFile.ofBytes [0, 1, 2])
        { job := UploadJob.start { bucket := "b", key := "k", uploadId := "u1" }
            (FileCut.ofPlan 3 { partSize := 10, concurrency := 1 })
            { partSize := 10, concurrency := 1 } }
        [.begin, .send 0, .answer 0 (.ok ⟨200, [("etag", "\"e1\"")], { pieces := [] }⟩),
          .finish 0, .close, .sendClosing, .answerClosing (.ok refusedCompletion)]).map
      (fun t => (t.outcome?.map (Except.map Client.FileUpload.result),
        t.requests.map Http.Request.method)) =
      some (some (.ok (.error (.service
        { status := 400, code := "InvalidPart", text := "no",
          context := { bucket := some "b", key := some "k", uploadId := some "u1" } }))),
        [.put, .post])
    -- the parts are put in order by well-founded recursion
    from by with_unfolding_all rfl
  rw [Prod.mk.injEq] at ht
  obtain ⟨outcome, houtcome, hresult⟩ := Option.map_eq_some_iff.1 ht.1
  rcases outcome with f | upload
  · cases hresult
  · refine ⟨t, upload, hrun, houtcome, Except.ok.inj hresult, ?_⟩
    intro q hq hgives
    have hmethod : q.method ∈ t.requests.map Http.Request.method := List.mem_map_of_mem hq
    rw [ht.2, hgives.method] at hmethod
    revert hmethod
    decide

end ObjectStore
