import ObjectStore.Proofs.Refusal
import ObjectStore.Proofs.Upload.Abortion
import ObjectStore.Proofs.Upload.Sequential
/-!
# Numbers of parts

A file that would need too many parts is refused before its upload starts.  **An upload that has
been started refuses nothing any more** (`Transfer.unrefused_of_schedule`): its parts are numbered
from one without a gap, so each of them has a number that a part may have, and what is completed
has one part at least and no number twice.

This holds of every file and of every schedule.  The invariant `Transfer.Numbered` is what it needs
of a transfer: that the run at an index has the index's number, and that something is under way or
has finished once a part has begun.
-/

namespace ObjectStore

/-- The result of the part at an index is no refusal, and a part has the index's number. -/
structure NumberedResult (index : Nat) (result : Except Fault Part) : Prop where
  unrefused : Unrefused result
  number : ∀ part, result = .ok part → part.number.toNat = index + 1

/-- What an upload comes to is no refusal. -/
def UnrefusedUpload (outcome : Except Fault Client.FileUpload) : Prop :=
  Unrefused (outcome.bind Client.FileUpload.result)

namespace Client

variable {client : Client} {cut : FileCut} {u : Upload}

theorem within_partOperation (client : Client) (file : LocalFile) (u : Upload) (hexact : cut.Exact)
    {i : UInt64} (hi : i < cut.count) :
    (UploadJob.partOperation client file cut u i).run.Within Exchanged
      (NumberedResult i.toNat) 1 := by
  rcases hrange : file.range (cut.offset i) (cut.length i) with f | stream
  · have hrun : (UploadJob.partOperation client file cut u i).run = .done (.error (.input f)) := by
      simp only [UploadJob.partOperation, PartSource.ofFile, hrange]
      rfl
    rw [hrun]
    refine .done ⟨?_, ?_⟩
    · intro m hm
      cases hm
    · intro part hpart
      cases hpart
  · let source : PartSource := { body := .stream (some (cut.length i)) stream }
    have hrun : (UploadJob.partOperation client file cut u i).run =
        (client.uploadPart u (FileCut.number i) source).run := by
      simp only [UploadJob.partOperation, PartSource.ofFile, hrange]
      rfl
    have hexchange : (client.uploadPart u (FileCut.number i) source).run = _ :=
      run_uploadPart (hexact.checkPartNumber hi) rfl
    have hguarded := guarded_uploadPart client u (FileCut.number i) source
    rw [Operation.Guarded, Operation.Within, hexchange] at hguarded
    rw [hrun, hexchange]
    refine .ask fun answer hanswer => .done ⟨?_, fun part hpart => ?_⟩
    · rcases hguarded with ⟨m, hm⟩ | hwithin
      · cases hm
      · cases hwithin with
        | ask hnext =>
          cases hnext answer hanswer with
          | done hresult => exact hresult
    · rw [(part_of_drained hpart).1, hexact.number i hi]

/-- A completion that has its parts in order is not refused. -/
theorem within_completeUpload {parts ordered : List Part} (client : Client) (u : Upload)
    (h : orderedParts parts = .ok ordered) :
    Operation.Within 1 (client.completeUpload u parts) := by
  rcases guarded_completeUpload client u parts with ⟨m, hm⟩ | hwithin
  · rw [run_completeUpload h] at hm
    cases hm
  · exact hwithin

end Client

/-- A part that has begun refuses nothing, and has the number of its index when it is done. -/
structure PartRun.Numbered (index : Nat) (p : PartRun) : Prop where
  rest : p.dialogue.rest.Within Exchanged (NumberedResult index) 1
  result : ∀ r, p.result = some r → NumberedResult index r

theorem PartRun.Numbered.part? {index : Nat} {p : PartRun} (h : p.Numbered index) {part : Part}
    (hpart : p.part? = some part) : part.number.toNat = index + 1 := by
  obtain ⟨result, hresult, hok⟩ := Option.bind_eq_some_iff.1 hpart
  rcases result with f | part'
  · cases hok
  · cases hok
    exact (h.result _ hresult).number part rfl

theorem PartRun.Numbered.fault? {index : Nat} {p : PartRun} (h : p.Numbered index) {f : Fault}
    (hfault : p.fault? = some f) : Unrefused (.error f : Except Fault Part) := by
  obtain ⟨result, hresult, hf⟩ := Option.bind_eq_some_iff.1 hfault
  rcases result with f' | part
  · cases hf
    exact (h.result _ hresult).unrefused
  · cases hf

/-- What runs at their indices have come to are parts in ascending order. -/
theorem PartRun.ascending_of_numbered {runs : List PartRun}
    (h : ∀ (i : Nat) (p : PartRun), runs[i]? = some p → p.Numbered i) :
    (runs.filterMap PartRun.part?).Pairwise fun a b => a.number < b.number := by
  rw [List.pairwise_filterMap, List.pairwise_iff_getElem]
  intro i j hi hj hlt a ha b hb
  have hnumberA := (h i _ (List.getElem?_eq_getElem hi)).part? ha
  have hnumberB := (h j _ (List.getElem?_eq_getElem hj)).part? hb
  rw [UInt32.lt_iff_toNat_lt, hnumberA, hnumberB]
  exact Nat.succ_lt_succ hlt

namespace Transfer

/-- The exchange that an event ends comes to a response or to a fault of the transport. -/
def Event.IsExchanged (event : Event) : Prop :=
  ∀ answer, event.answer? = some answer → Exchanged answer

/-- The run at an index has the index's number, the job has taken in what the runs have come to,
and there is something to complete once a part has begun. -/
structure Numbered (client : Client) (cut : FileCut) (u : Upload) (t : Transfer) : Prop where
  orderly : t.Orderly client u
  cut_eq : t.job.cut = cut
  next : t.job.next.toNat = t.runs.length
  runs : ∀ (i : Nat) (p : PartRun), t.runs[i]? = some p → p.Numbered i
  finished : t.job.finished.Perm (t.runs.filterMap PartRun.part?)
  progress : t.runs = [] ∨ t.job.underWay ≠ [] ∨ t.job.finished ≠ [] ∨ t.job.failure ≠ none
  closing : ∀ d, t.closing = some d → d.rest.Within Exchanged UnrefusedUpload 1

variable {client : Client} {file : LocalFile} {cut : FileCut} {u : Upload} {t t' : Transfer}

theorem numbered_start (client : Client) (u : Upload) (cut : FileCut) (plan : PartPlan) :
    Numbered client cut u { job := UploadJob.start u cut plan } where
  orderly := orderly_start u cut plan
  cut_eq := rfl
  next := rfl
  runs := fun _ _ h => by simp at h
  finished := .refl _
  progress := .inl rfl
  closing := fun _ h => nomatch h

theorem Numbered.begin (h : t.Numbered client cut u) (hexact : cut.Exact)
    (hstep : t.step client file .begin = some t') : t'.Numbered client cut u := by
  have horderly := h.orderly.begin hstep
  obtain ⟨hclosing, _, hnext, _, u', hu, rfl⟩ := step_begin hstep
  rw [h.cut_eq] at hnext
  refine ⟨horderly, h.cut_eq, ?_, ?_, ?_, .inr (.inl (List.cons_ne_nil _ _)), ?_⟩
  · rw [List.length_append, hexact.next _ hnext, h.next]
    rfl
  · intro i p hp
    rcases of_getElem?_concat hp with hold | ⟨rfl, rfl⟩
    · exact h.runs i p hold
    · refine ⟨?_, fun r hr => nomatch hr⟩
      rw [h.cut_eq, ← h.next]
      exact Client.within_partOperation client file u' hexact hnext
  · rw [List.filterMap_append]
    show t.job.finished.Perm (_ ++ [])
    rw [List.append_nil]
    exact h.finished
  · intro d hd
    rw [hclosing] at hd
    cases hd

/-- A part that goes on with its dialogue. -/
theorem Numbered.goOn {i : Nat} {p p' : PartRun} (h : t.Numbered client cut u)
    (horderly : (t.setRun i p').Orderly client u) (hp : t.runs[i]? = some p)
    (hresult : p'.result = p.result)
    (hrest : p'.dialogue.rest.Within Exchanged (NumberedResult i) 1) :
    (t.setRun i p').Numbered client cut u := by
  refine ⟨horderly, h.cut_eq, ?_, ?_, ?_, ?_, h.closing⟩
  · rw [setRun, List.length_set]
    exact h.next
  · intro j q hq
    rcases of_getElem?_set hq with ⟨rfl, rfl⟩ | ⟨_, hold⟩
    · exact ⟨hrest, hresult ▸ (h.runs i p hp).result⟩
    · exact h.runs j q hold
  · exact (PartRun.filterMap_part?_set hp hresult).symm ▸ h.finished
  · rcases h.progress with hnone | hsome
    · rw [hnone] at hp
      cases hp
    · exact .inr hsome

theorem Numbered.send {i : Nat} (h : t.Numbered client cut u)
    (hstep : t.step client file (.send i) = some t') : t'.Numbered client cut u := by
  have horderly := h.orderly.step hstep
  obtain ⟨_, _, p, request, dialogue, hp, hsend, rfl⟩ := step_send hstep
  refine h.goOn horderly hp rfl ?_
  have hrest := (h.runs i p hp).rest
  obtain ⟨next, hasks, rfl⟩ := Dialogue.Running.send?_eq_some hsend
  rw [hasks] at hrest
  exact hrest

theorem Numbered.answer {i : Nat} {answer : Except Fault Http.Response}
    (h : t.Numbered client cut u) (hanswer : Exchanged answer)
    (hstep : t.step client file (.answer i answer) = some t') : t'.Numbered client cut u := by
  have horderly := h.orderly.step hstep
  obtain ⟨_, _, p, dialogue, hp, htaken, rfl⟩ := step_answer hstep
  refine h.goOn horderly hp rfl ?_
  have hrest := (h.runs i p hp).rest
  obtain ⟨q, next, hasks, rfl⟩ := Dialogue.Running.answer?_eq_some htaken
  rw [hasks] at hrest
  cases hrest with
  | ask hnext => exact (hnext answer hanswer).mono (Nat.zero_le 1)

theorem Numbered.finish {i : Nat} (h : t.Numbered client cut u)
    (hstep : t.step client file (.finish i) = some t') : t'.Numbered client cut u := by
  have horderly := h.orderly.finish hstep
  obtain ⟨hclosing, hfailure, p, result, hp, hnone, hvalue, rfl⟩ := step_finish hstep
  obtain ⟨hcut, _, _, hnext, _⟩ := UploadJob.finishPart_keeps t.job i.toUInt64 result
  obtain ⟨hfinished, hfault⟩ := UploadJob.finishPart_counts hfailure i.toUInt64 result
  have hresult : NumberedResult i result := by
    have hrest := (h.runs i p hp).rest
    rw [Dialogue.Running.value?_eq_some hvalue] at hrest
    cases hrest with
    | done hresult => exact hresult
  refine ⟨horderly, hcut.trans h.cut_eq, ?_, ?_, ?_, ?_, ?_⟩
  · simp only [hnext, List.length_set]
    exact h.next
  · intro j q hq
    rcases of_getElem?_set hq with ⟨rfl, rfl⟩ | ⟨_, hold⟩
    · refine ⟨(h.runs i p hp).rest, fun r hr => ?_⟩
      cases hr
      exact hresult
    · exact h.runs j q hold
  · simp only [hfinished]
    exact PartRun.perm_filterMap_part?_finish hp hnone h.finished result
  · right
    right
    rcases result with f | part
    · right
      rw [hfault]
      exact Option.some_ne_none f
    · left
      rw [hfinished]
      exact List.append_ne_nil_of_right_ne_nil _ (List.cons_ne_nil _ _)
  · intro d hd
    rw [hclosing] at hd
    cases hd

/-! ### The end -/

/-- What there is to complete once no part is left has its parts in order. -/
theorem Numbered.orderedParts (h : t.Numbered client cut u) (hexact : cut.Exact)
    (hfailure : t.job.failure = none) (hthrough : t.isThrough = true) :
    ∃ ordered, Client.orderedParts t.job.finished = .ok ordered := by
  simp only [isThrough, hfailure, Option.isSome_none, Bool.false_or, Bool.and_eq_true,
    decide_eq_true_eq, List.isEmpty_iff] at hthrough
  have hruns : t.runs ≠ [] := by
    have hlength := h.next
    rw [hthrough.1, h.cut_eq] at hlength
    have hpos := hexact.count_pos
    intro hnil
    rw [hlength, hnil] at hpos
    exact absurd hpos (Nat.not_lt_zero _)
  have hfinished : t.job.finished ≠ [] := by
    rcases h.progress with hnone | hunderWay | hfinished | hfailed
    · exact absurd hnone hruns
    · exact absurd hthrough.2 hunderWay
    · exact hfinished
    · exact absurd hfailure hfailed
  have hparts : t.runs.filterMap PartRun.part? ≠ [] := fun hnil =>
    hfinished (hnil ▸ h.finished).eq_nil
  exact ⟨_, Client.orderedParts_of_perm hparts h.finished (PartRun.ascending_of_numbered h.runs)⟩

theorem Numbered.within_closeJob (h : t.Numbered client cut u) (hexact : cut.Exact)
    (hthrough : t.isThrough = true) :
    (client.closeJob t.job).run.Within Exchanged UnrefusedUpload 1 := by
  rcases hfailure : t.job.failure with _ | f
  · obtain ⟨ordered, hordered⟩ := h.orderedParts hexact hfailure hthrough
    have hcomplete : client.completeJob t.job = client.completeUpload u t.job.finished := by
      simp only [Client.completeJob, Coordinator.enter_of_open h.orderly.upload h.orderly.stage]
    rw [Client.run_closeJob_of_none hfailure, hcomplete]
    have hwithin := Client.within_completeUpload client u hordered
    exact Dialogue.Within.bind (n := 0) hwithin fun result hresult => .done hresult
  · obtain ⟨p, hp, hfault⟩ : ∃ p ∈ t.runs, p.fault? = some f := by
      have hmem : f ∈ t.runs.filterMap PartRun.fault? := by simp [h.orderly.faults, hfailure]
      exact List.mem_filterMap.1 hmem
    obtain ⟨i, hi⟩ := List.getElem?_of_mem hp
    have hf := (h.runs i p hi).fault? hfault
    rw [Client.run_closeJob_failed hfailure h.orderly.upload h.orderly.stage]
    exact .ask fun _ _ => .done (unrefused_error_congr hf)

/-- A transfer that goes on with its closing dialogue. -/
theorem Numbered.goOnClosing {d : Dialogue.Running Http.Request (Except Fault Http.Response)
    (Except Fault Client.FileUpload)} {sent : List Http.Request} (h : t.Numbered client cut u)
    (horderly : { t with closing := some d, closingSent := sent }.Orderly client u)
    (hrest : d.rest.Within Exchanged UnrefusedUpload 1) :
    { t with closing := some d, closingSent := sent }.Numbered client cut u := by
  refine ⟨horderly, h.cut_eq, h.next, h.runs, h.finished, h.progress, fun d' hd' => ?_⟩
  cases hd'
  exact hrest

theorem Numbered.close (h : t.Numbered client cut u) (hexact : cut.Exact)
    (hstep : t.step client file .close = some t') : t'.Numbered client cut u := by
  have horderly := h.orderly.step hstep
  obtain ⟨_, hthrough, rfl⟩ := step_close hstep
  exact h.goOnClosing horderly (h.within_closeJob hexact hthrough)

theorem Numbered.step {event : Event} (h : t.Numbered client cut u) (hexact : cut.Exact)
    (hevent : event.IsExchanged) (hstep : t.step client file event = some t') :
    t'.Numbered client cut u := by
  cases event with
  | begin => exact h.begin hexact hstep
  | send => exact h.send hstep
  | answer i answer => exact h.answer (hevent answer rfl) hstep
  | finish => exact h.finish hstep
  | close => exact h.close hexact hstep
  | sendClosing =>
    have horderly := h.orderly.step hstep
    obtain ⟨d, request, d', hd, hsend, rfl⟩ := step_sendClosing hstep
    have hrest := h.closing d hd
    obtain ⟨next, rfl, rfl⟩ := Dialogue.Running.send?_eq_some hsend
    exact h.goOnClosing horderly hrest
  | answerClosing answer =>
    have horderly := h.orderly.step hstep
    obtain ⟨d, d', hd, hanswer, rfl⟩ := step_answerClosing hstep
    have hrest := h.closing d hd
    obtain ⟨q, next, rfl, rfl⟩ := Dialogue.Running.answer?_eq_some hanswer
    cases hrest with
    | ask hnext =>
      exact h.goOnClosing horderly ((hnext answer (hevent answer rfl)).mono (Nat.zero_le 1))

theorem Numbered.run {events : List Event} (h : t.Numbered client cut u) (hexact : cut.Exact)
    (hevents : ∀ event ∈ events, event.IsExchanged)
    (hrun : t.run client file events = some t') : t'.Numbered client cut u := by
  induction events generalizing t with
  | nil =>
    cases hrun
    exact h
  | cons event events ih =>
    rw [Transfer.run, Option.bind_eq_bind, Option.bind_eq_some_iff] at hrun
    obtain ⟨next, hstep, hrest⟩ := hrun
    exact ih (h.step hexact (hevents event List.mem_cons_self) hstep)
      (fun event' hevent' => hevents event' (List.mem_cons_of_mem _ hevent')) hrest

end Transfer

/-- **An upload that has been started refuses nothing any more**, for every file and in every
schedule. -/
theorem Transfer.unrefused_of_schedule {client : Client} {file : LocalFile} {plan : PartPlan}
    {u : Upload} {events : List Transfer.Event} {t : Transfer}
    {outcome : Except Fault Client.FileUpload}
    (hcheck : (FileCut.ofPlan file.size plan).check = .ok ())
    (hevents : ∀ event ∈ events, event.IsExchanged)
    (hrun : Transfer.run client file
      { job := UploadJob.start u (FileCut.ofPlan file.size plan) plan } events = some t)
    (hover : t.outcome? = some outcome) : UnrefusedUpload outcome := by
  have hexact := FileCut.exact_of_check hcheck
  have hnumbered := (Transfer.numbered_start client u _ plan).run hexact hevents hrun
  obtain ⟨d, hd, hvalue⟩ := Option.bind_eq_some_iff.1 hover
  have hrest := hnumbered.closing d hd
  rw [Dialogue.Running.value?_eq_some hvalue] at hrest
  cases hrest with
  | done houtcome => exact houtcome

/-! ### From the file on -/

namespace Client

/-- What uploading a file can send and come to, whatever the exchanges come to and in whatever
order its parts go on. -/
inductive Uploads (c : Client) (bucket key : String) (file : Except InputFault LocalFile)
    (props : ObjectProperties) (plan : PartPlan) :
    List Http.Request → Except Fault FileUpload → Prop where
  | unreadable {f : InputFault} (hfile : file = .error f) :
    c.Uploads bucket key file props plan [] (.ok { result := .error (.input f) })
  | uncut {content : LocalFile} {f : Fault} (hfile : file = .ok content)
      (hcheck : (FileCut.ofPlan content.size plan).check = .error f) :
    c.Uploads bucket key file props plan [] (.ok { result := .error f })
  | unstarted {content : LocalFile} {f : Fault} {answers rest : List (Except Fault Http.Response)}
      {requests : List Http.Request} (hfile : file = .ok content)
      (hcheck : (FileCut.ofPlan content.size plan).check = .ok ())
      (hanswers : ∀ answer ∈ answers, Exchanged answer)
      (hstart : (c.startUpload bucket key props).run.replay answers =
        (requests, rest, some (.error f))) :
    c.Uploads bucket key file props plan requests (.ok { result := .error f })
  | started {content : LocalFile} {u : Upload} {answers rest : List (Except Fault Http.Response)}
      {first : List Http.Request} {events : List Transfer.Event} {t : Transfer}
      {outcome : Except Fault FileUpload} (hfile : file = .ok content)
      (hcheck : (FileCut.ofPlan content.size plan).check = .ok ())
      (hanswers : ∀ answer ∈ answers, Exchanged answer)
      (hstart : (c.startUpload bucket key props).run.replay answers =
        (first, rest, some (.ok u)))
      (hevents : ∀ event ∈ events, event.IsExchanged)
      (hrun : Transfer.run c content
        { job := UploadJob.start u (FileCut.ofPlan content.size plan) plan } events = some t)
      (hover : t.outcome? = some outcome) :
    c.Uploads bucket key file props plan (first ++ t.requests) outcome

variable {c : Client} {bucket key : String} {file : Except InputFault LocalFile}
  {props : ObjectProperties} {plan : PartPlan}

/-- Uploading one part after the other is one of the ways. -/
theorem uploads_of_replay {answers rest : List (Except Fault Http.Response)}
    {requests : List Http.Request} {outcome : Except Fault FileUpload}
    (hanswers : ∀ answer ∈ answers, Exchanged answer)
    (hreplay : (c.uploadFile bucket key file props plan).run.replay answers =
      (requests, rest, some outcome)) : c.Uploads bucket key file props plan requests outcome := by
  rcases file with f | content
  · cases hreplay
    exact .unreadable rfl
  · rcases hcheck : (FileCut.ofPlan content.size plan).check with f | _
    · simp only [uploadFile, hcheck] at hreplay
      cases hreplay
      exact .uncut rfl hcheck
    · have hheld := hreplay
      rw [run_uploadFile hcheck] at hheld
      obtain ⟨first, second, left, started, hstart, hsecond, rfl⟩ :=
        Dialogue.replay_bind_eq_some hheld
      rcases started with f | u
      · cases hsecond
        rw [List.append_nil]
        exact .unstarted rfl hcheck hanswers hstart
      · obtain ⟨events, t, hrun, hover, hrequests, htaken⟩ :=
          exists_schedule_of_uploadFile hcheck hstart hreplay
        have hevents : ∀ event ∈ events, event.IsExchanged := fun event hevent answer hanswer =>
          hanswers answer (htaken (List.mem_filterMap.2 ⟨event, hevent, hanswer⟩))
        rw [hrequests, List.append_assoc]
        exact .started rfl hcheck hanswers hstart hevents hrun hover

/-- **A file is refused before anything is sent.** -/
theorem Uploads.eq_nil_of_refused {requests : List Http.Request}
    {outcome : Except Fault FileUpload} (h : c.Uploads bucket key file props plan requests outcome)
    {m : Misuse} (hrefused : outcome.bind FileUpload.result = .error (.invalidArgument m)) :
    requests = [] := by
  cases h with
  | unreadable => rfl
  | uncut => rfl
  | unstarted _ _ hanswers hstart =>
    have hwithin : Operation.Within 1 (c.startUpload bucket key props) :=
      (within_fetch c _ _ _).bind fun _ => Operation.within_pure _
    have hunrefused := (hwithin.replay hanswers).2 _ (congrArg (·.2.2) hstart)
    cases hrefused
    exact absurd rfl (hunrefused m)
  | started _ hcheck _ _ hevents hrun hover =>
    exact absurd hrefused (Transfer.unrefused_of_schedule hcheck hevents hrun hover m)

end Client

end ObjectStore
