import Mathlib.Algebra.Ring.Nat
import ObjectStore.Proofs.Upload.Coordinator
import ObjectStore.Proofs.Upload.Ordering
import ObjectStore.Proofs.Upload.Parts
/-!
# Uploading a file, whatever the schedule

`Transfer` is a file being uploaded: the job, the parts that have begun, each with its own
dialogue, and the closing dialogue that completes or aborts the upload.  The events are those
of a schedule: which part begins, sends, is answered or is taken in next.  Nothing of a part
happens any more once a part has failed, for the parts still under way are dropped then.

**What a transfer has sent and taken in is settled by the file and the answers alone**, in
whatever order things happened: `Transfer.Coherent` is the invariant and `Transfer.Sound` what
follows from it.
-/

namespace ObjectStore

/-- The end of an upload: an abortion after a failure, and a completion otherwise. -/
def Client.closeJob (c : Client) (job : UploadJob) : Operation Client.FileUpload :=
  match job.failure with
  | some f => do
    c.abortJob job
    return { result := .error f, parts := job.finished }
  | none => do
    let result ← Client.settled (c.completeJob job)
    return { result, parts := job.finished }

def Fault.of? {α : Type} : Except Fault α → Option Fault
  | .ok _ => none
  | .error f => some f

/-- A part that has begun, with what it has sent, the answers, and its result once that is
taken in. -/
structure PartRun where
  dialogue : Dialogue.Running Http.Request (Except Fault Http.Response) (Except Fault Part)
  sent : List Http.Request := []
  answers : List (Except Fault Http.Response) := []
  result : Option (Except Fault Part) := none

namespace PartRun

/-- The part, if it was uploaded. -/
def part? (p : PartRun) : Option Part := p.result.bind Except.toOption

/-- Why it was not. -/
def fault? (p : PartRun) : Option Fault := p.result.bind Fault.of?

end PartRun

theorem PartRun.part?_eq_none {p : PartRun} {f : Fault} (h : p.fault? = some f) :
    p.part? = none := by
  obtain ⟨dialogue, sent, answers, result⟩ := p
  rcases result with _ | f | part
  · rfl
  · rfl
  · cases h

/-- The faults of the runs are the same once a run has gone on. -/
theorem PartRun.filterMap_fault?_set {runs : List PartRun} {i : Nat} {p p' : PartRun}
    (hp : runs[i]? = some p) (hresult : p'.result = p.result) :
    (runs.set i p').filterMap PartRun.fault? = runs.filterMap PartRun.fault? := by
  obtain ⟨before, after, hruns, _, hset⟩ := exists_split hp
  have hfault : p'.fault? = p.fault? := by rw [PartRun.fault?, PartRun.fault?, hresult]
  rw [hset, hruns, filterMap_split, filterMap_split, hfault]

/-- A result that is taken in is the first fault or none. -/
theorem PartRun.filterMap_fault?_finish {runs : List PartRun} {i : Nat} {p : PartRun}
    (hp : runs[i]? = some p) (hnone : p.result = none)
    (hfaults : runs.filterMap PartRun.fault? = []) (result : Except Fault Part) :
    (runs.set i { p with result := some result }).filterMap PartRun.fault? =
      (Fault.of? result).toList := by
  obtain ⟨before, after, hruns, _, hset⟩ := exists_split hp
  have hp : p.fault? = none := by rw [PartRun.fault?, hnone]; rfl
  rw [hruns, filterMap_split, hp] at hfaults
  obtain ⟨hbefore, hafter⟩ := List.append_eq_nil_iff.1 hfaults
  have hafter : after.filterMap PartRun.fault? = [] := hafter
  rw [hset, filterMap_split, hbefore, hafter, List.append_nil, List.nil_append]
  rfl

/-- The parts of the runs are the same once a run has gone on. -/
theorem PartRun.filterMap_part?_set {runs : List PartRun} {i : Nat} {p p' : PartRun}
    (hp : runs[i]? = some p) (hresult : p'.result = p.result) :
    (runs.set i p').filterMap PartRun.part? = runs.filterMap PartRun.part? := by
  obtain ⟨before, after, hruns, _, hset⟩ := exists_split hp
  have hpart : p'.part? = p.part? := by rw [PartRun.part?, PartRun.part?, hresult]
  rw [hset, hruns, filterMap_split, filterMap_split, hpart]

/-- A part that is taken in is added to the parts of the runs. -/
theorem PartRun.perm_filterMap_part?_finish {runs : List PartRun} {i : Nat} {p : PartRun}
    {finished : List Part} (hp : runs[i]? = some p) (hnone : p.result = none)
    (h : finished.Perm (runs.filterMap PartRun.part?)) (result : Except Fault Part) :
    (finished ++ result.toOption.toList).Perm
      ((runs.set i { p with result := some result }).filterMap PartRun.part?) := by
  obtain ⟨before, after, hruns, _, hset⟩ := exists_split hp
  have hpart : p.part? = none := by rw [PartRun.part?, hnone]; rfl
  rw [hruns, filterMap_split, hpart] at h
  rw [hset, filterMap_split]
  calc finished ++ result.toOption.toList
    _ |>.Perm ((before.filterMap PartRun.part? ++ after.filterMap PartRun.part?) ++
          result.toOption.toList) := h.append_right _
    _ |>.Perm (before.filterMap PartRun.part? ++ (result.toOption.toList ++
          after.filterMap PartRun.part?)) := by
        rw [List.append_assoc]
        exact List.perm_append_comm.append_left _

/-- An upload of a file under way. -/
structure Transfer where
  job : UploadJob
  /-- The parts that have begun, by their index. -/
  runs : List PartRun := []
  closing : Option (Dialogue.Running Http.Request (Except Fault Http.Response)
    (Except Fault Client.FileUpload)) := none
  closingSent : List Http.Request := []

namespace Transfer

/-- What happens next; a part is given by its index. -/
inductive Event where
  | begin
  | send (i : Nat)
  | answer (i : Nat) (answer : Except Fault Http.Response)
  | finish (i : Nat)
  | close
  | sendClosing
  | answerClosing (answer : Except Fault Http.Response)

/-- What an exchange has come to, if the event is that an answer arrives. -/
def Event.answer? : Event → Option (Except Fault Http.Response)
  | .answer _ result => some result
  | .answerClosing result => some result
  | _ => none

/-- Whether anything of a part can still happen. -/
def isOpen (t : Transfer) : Bool := t.closing.isNone && t.job.failure.isNone

/-- Whether no part is left to begin or to finish. -/
def isThrough (t : Transfer) : Bool :=
  t.job.failure.isSome || (t.job.next = t.job.cut.count && t.job.underWay.isEmpty)

/-- One step, if the event can happen. -/
def step (client : Client) (file : LocalFile) (t : Transfer) : Event → Option Transfer
  | .begin =>
    if t.isOpen && t.job.canBegin then
      match t.job.beginPart with
      | .error _ => none
      | .ok (u, job) =>
        let operation := UploadJob.partOperation client file t.job.cut u t.job.next
        some { t with job, runs := t.runs ++ [{ dialogue := { rest := operation.run } }] }
    else none
  | .send i =>
    if t.isOpen then do
      let p ← t.runs[i]?
      let (request, dialogue) ← p.dialogue.send?
      return { t with runs := t.runs.set i { p with dialogue, sent := p.sent ++ [request] } }
    else none
  | .answer i answer =>
    if t.isOpen then do
      let p ← t.runs[i]?
      let dialogue ← p.dialogue.answer? answer
      return { t with runs := t.runs.set i { p with dialogue, answers := p.answers ++ [answer] } }
    else none
  | .finish i =>
    if t.isOpen then do
      let p ← t.runs[i]?
      if p.result.isSome then none
      else
        let result ← p.dialogue.value?
        return { t with job := t.job.finishPart i.toUInt64 result,
                        runs := t.runs.set i { p with result := some result } }
    else none
  | .close =>
    if t.closing.isNone && t.isThrough then
      some { t with closing := some { rest := (client.closeJob t.job).run } }
    else none
  | .sendClosing => do
    let d ← t.closing
    let (request, d) ← d.send?
    return { t with closing := some d, closingSent := t.closingSent ++ [request] }
  | .answerClosing answer => do
    let d ← t.closing
    let d ← d.answer? answer
    return { t with closing := some d }

/-- What the upload came to, once it is over. -/
def outcome? (t : Transfer) : Option (Except Fault Client.FileUpload) :=
  t.closing.bind Dialogue.Running.value?

/-- Some steps in turn, if each of the events can happen. -/
def run (client : Client) (file : LocalFile) (t : Transfer) : List Event → Option Transfer
  | [] => some t
  | event :: events => do
    let t' ← t.step client file event
    t'.run client file events

end Transfer

/-! ### What one step does -/

/-- Beginning a part enters a call on the upload. -/
theorem UploadJob.beginPart_eq_ok {job job' : UploadJob} {u : Upload}
    (h : job.beginPart = .ok (u, job')) :
    job.coordinator.upload = some u ∧
      job' = { job with
        coordinator := { job.coordinator with stage := .uploading },
        next := job.next + 1,
        underWay := job.next :: job.underWay } := by
  rcases henter : job.coordinator.enter
    (.uploadPart (FileCut.number job.next) { body := .bytes [] }) with f | ⟨u', previous, c⟩
  · simp only [beginPart, henter] at h
    cases h
  · simp only [beginPart, henter] at h
    obtain ⟨hu, _, _, rfl⟩ := Coordinator.enter_eq_ok henter
    cases h
    exact ⟨hu, rfl⟩

theorem UploadJob.finishPart_keeps (job : UploadJob) (index : UInt64)
    (result : Except Fault Part) :
    (job.finishPart index result).cut = job.cut ∧
      (job.finishPart index result).coordinator = job.coordinator ∧
      (job.finishPart index result).limit = job.limit ∧
      (job.finishPart index result).next = job.next ∧
      (job.finishPart index result).underWay = job.underWay.erase index := by
  obtain ⟨coordinator, cut, limit, next, underWay, finished, failure⟩ := job
  rcases failure with _ | f
  · rcases result with f | part <;> exact ⟨rfl, rfl, rfl, rfl, rfl⟩
  · exact ⟨rfl, rfl, rfl, rfl, rfl⟩

/-- A result counts as long as no part has failed. -/
theorem UploadJob.finishPart_counts {job : UploadJob} (h : job.failure = none) (index : UInt64)
    (result : Except Fault Part) :
    (job.finishPart index result).finished = job.finished ++ result.toOption.toList ∧
      (job.finishPart index result).failure = Fault.of? result := by
  obtain ⟨coordinator, cut, limit, next, underWay, finished, failure⟩ := job
  obtain rfl : failure = none := h
  rcases result with f | part
  · exact ⟨(List.append_nil _).symm, rfl⟩
  · exact ⟨rfl, rfl⟩

namespace Transfer

variable {client : Client} {file : LocalFile} {t t' : Transfer}

theorem of_isOpen (h : t.isOpen = true) : t.closing = none ∧ t.job.failure = none := by
  simpa [isOpen] using h

theorem step_begin (h : t.step client file .begin = some t') :
    t.closing = none ∧ t.job.failure = none ∧ t.job.next < t.job.cut.count ∧
      t.job.underWay.length < t.job.limit.toNat ∧
      ∃ u, t.job.coordinator.upload = some u ∧
        t' = { t with
          job := { t.job with
            coordinator := { t.job.coordinator with stage := .uploading },
            next := t.job.next + 1,
            underWay := t.job.next :: t.job.underWay }
          runs := t.runs ++ [{ dialogue := ⟨
            (UploadJob.partOperation client file t.job.cut u t.job.next).run, false⟩ }] } := by
  simp only [step] at h
  split at h
  · next hbegin =>
    rw [Bool.and_eq_true] at hbegin
    obtain ⟨hclosing, hfailure⟩ := of_isOpen hbegin.1
    have hcan := hbegin.2
    simp only [UploadJob.canBegin, hfailure, Option.isNone_none, Bool.true_and, Bool.and_eq_true,
      decide_eq_true_eq] at hcan
    split at h
    · cases h
    · next u job hjob =>
      obtain ⟨hu, rfl⟩ := UploadJob.beginPart_eq_ok hjob
      cases h
      exact ⟨hclosing, hfailure, hcan.1, hcan.2, u, hu, rfl⟩
  · cases h

theorem step_send {i : Nat} (h : t.step client file (.send i) = some t') :
    t.closing = none ∧ t.job.failure = none ∧
      ∃ p request dialogue, t.runs[i]? = some p ∧ p.dialogue.send? = some (request, dialogue) ∧
        t' = { t with
          runs := t.runs.set i { p with dialogue, sent := p.sent ++ [request] } } := by
  simp only [step] at h
  split at h
  · next hopen =>
    obtain ⟨hclosing, hfailure⟩ := of_isOpen hopen
    simp only [Option.bind_eq_bind, Option.bind_eq_some_iff] at h
    obtain ⟨p, hp, ⟨request, dialogue⟩, hsend, h⟩ := h
    cases h
    exact ⟨hclosing, hfailure, p, request, dialogue, hp, hsend, rfl⟩
  · cases h

theorem step_answer {i : Nat} {answer : Except Fault Http.Response}
    (h : t.step client file (.answer i answer) = some t') :
    t.closing = none ∧ t.job.failure = none ∧
      ∃ p dialogue, t.runs[i]? = some p ∧ p.dialogue.answer? answer = some dialogue ∧
        t' = { t with
          runs := t.runs.set i { p with dialogue, answers := p.answers ++ [answer] } } := by
  simp only [step] at h
  split at h
  · next hopen =>
    obtain ⟨hclosing, hfailure⟩ := of_isOpen hopen
    simp only [Option.bind_eq_bind, Option.bind_eq_some_iff] at h
    obtain ⟨p, hp, dialogue, hanswer, h⟩ := h
    cases h
    exact ⟨hclosing, hfailure, p, dialogue, hp, hanswer, rfl⟩
  · cases h

theorem step_finish {i : Nat} (h : t.step client file (.finish i) = some t') :
    t.closing = none ∧ t.job.failure = none ∧
      ∃ p result, t.runs[i]? = some p ∧ p.result = none ∧ p.dialogue.value? = some result ∧
        t' = { t with
          job := t.job.finishPart i.toUInt64 result,
          runs := t.runs.set i { p with result := some result } } := by
  simp only [step] at h
  split at h
  · next hopen =>
    obtain ⟨hclosing, hfailure⟩ := of_isOpen hopen
    simp only [Option.bind_eq_bind, Option.bind_eq_some_iff] at h
    obtain ⟨p, hp, h⟩ := h
    split at h
    · cases h
    · next hresult =>
      rw [Option.bind_eq_some_iff] at h
      obtain ⟨result, hvalue, h⟩ := h
      cases h
      exact ⟨hclosing, hfailure, p, result, hp, by simpa using hresult, hvalue, rfl⟩
  · cases h

theorem step_close (h : t.step client file .close = some t') :
    t.closing = none ∧ t.isThrough = true ∧
      t' = { t with closing := some ⟨(client.closeJob t.job).run, false⟩ } := by
  simp only [step] at h
  split at h
  · next hclose =>
    rw [Bool.and_eq_true] at hclose
    cases h
    exact ⟨by simpa using hclose.1, hclose.2, rfl⟩
  · cases h

theorem step_sendClosing (h : t.step client file .sendClosing = some t') :
    ∃ d request d', t.closing = some d ∧ d.send? = some (request, d') ∧
      t' = { t with closing := some d', closingSent := t.closingSent ++ [request] } := by
  simp only [step, Option.bind_eq_bind, Option.bind_eq_some_iff] at h
  obtain ⟨d, hd, ⟨request, d'⟩, hsend, h⟩ := h
  cases h
  exact ⟨d, request, d', hd, hsend, rfl⟩

theorem step_answerClosing {answer : Except Fault Http.Response}
    (h : t.step client file (.answerClosing answer) = some t') :
    ∃ d d', t.closing = some d ∧ d.answer? answer = some d' ∧
      t' = { t with closing := some d' } := by
  simp only [step, Option.bind_eq_bind, Option.bind_eq_some_iff] at h
  obtain ⟨d, hd, d', hanswer, h⟩ := h
  cases h
  exact ⟨d, d', hd, hanswer, rfl⟩

end Transfer

/-! ### The invariant -/

/-- What a part has sent and been answered is how far its dialogue has come, and a result that
is taken in is the dialogue's. -/
structure PartRun.Coherent (content : Bytes) (partSize : Nat) (u : Upload) (index : Nat)
    (p : PartRun) : Prop where
  history : ∃ d, PartDialogue content partSize u index d ∧ p.dialogue.History d p.sent p.answers
  result : ∀ r, p.result = some r → p.dialogue.value? = some r

namespace Transfer

/-- The parts that have begun are the first ones.  What the job has taken in is what they have
come to, and the closing dialogue begins when no part is left. -/
structure Coherent (client : Client) (content : Bytes) (cut : FileCut) (u : Upload)
    (t : Transfer) : Prop where
  cut_eq : t.job.cut = cut
  upload : t.job.coordinator.upload = some u
  stage : t.job.coordinator.stage.isOpen = true
  next : t.job.next.toNat = t.runs.length
  begun : t.runs.length ≤ cut.count.toNat
  runs : ∀ (i : Nat) (p : PartRun), t.runs[i]? = some p → p.Coherent content cut.partSize.toNat u i
  underWay : ∀ (i : Nat) (p : PartRun), t.runs[i]? = some p → p.result = none →
    i.toUInt64 ∈ t.job.underWay
  finished : t.job.finished.Perm (t.runs.filterMap PartRun.part?)
  faults : t.runs.filterMap PartRun.fault? = t.job.failure.toList
  closing : (t.closing = none ∧ t.closingSent = []) ∨
    ∃ d answers, t.closing = some d ∧ d.History (client.closeJob t.job).run t.closingSent answers ∧
      (t.job.failure = none → t.runs.length = cut.count.toNat ∧ ∀ p ∈ t.runs, p.result ≠ none)

variable {client : Client} {content : Bytes} {cut : FileCut} {u : Upload} {t t' : Transfer}

theorem Coherent.begin (h : t.Coherent client content cut u) (hexact : cut.Exact)
    (hcontent : content.length = cut.fileSize.toNat)
    (hstep : t.step client (LocalFile.ofBytes content) .begin = some t') :
    t'.Coherent client content cut u := by
  obtain ⟨hclosing, hfailure, hnext, hlimit, u', hu, rfl⟩ := step_begin hstep
  obtain rfl : u' = u := by
    rw [h.upload] at hu
    exact (Option.some.inj hu).symm
  rw [h.cut_eq] at hnext
  have hindex : t.job.next = t.runs.length.toUInt64 := by
    rw [← h.next]
    exact (UInt64.ofNat_toNat).symm
  have hlt := UInt64.lt_iff_toNat_lt.1 hnext
  rw [h.next] at hlt
  refine ⟨h.cut_eq, hu, rfl, ?_, ?_, ?_, ?_, ?_, ?_, ?_⟩
  · rw [List.length_append, hexact.next _ hnext, h.next]
    rfl
  · rw [List.length_append]
    exact hlt
  · intro i p hp
    rcases of_getElem?_concat hp with hold | ⟨rfl, rfl⟩
    · exact h.runs i p hold
    · refine ⟨⟨_, ?_, .start⟩, fun r hr => nomatch hr⟩
      rw [h.cut_eq, ← h.next]
      exact partDialogue_partOperation client hexact hcontent hnext
  · intro i p hp hresult
    rcases of_getElem?_concat hp with hold | ⟨rfl, rfl⟩
    · exact List.mem_cons_of_mem _ (h.underWay i p hold hresult)
    · rw [← hindex]
      exact List.mem_cons_self
  · rw [List.filterMap_append]
    show t.job.finished.Perm (_ ++ [])
    rw [List.append_nil]
    exact h.finished
  · rw [List.filterMap_append]
    show _ ++ [] = t.job.failure.toList
    rw [List.append_nil]
    exact h.faults
  · exact .inl ⟨hclosing, (h.closing.resolve_right (by simp [hclosing])).2⟩

/-- A part that goes on with its dialogue is still under way. -/
theorem Coherent.goOn {i : Nat} {p p' : PartRun} (h : t.Coherent client content cut u)
    (hclosing : t.closing = none) (hp : t.runs[i]? = some p) (hresult : p'.result = p.result)
    (hp' : p'.Coherent content cut.partSize.toNat u i) :
    Coherent client content cut u { t with runs := t.runs.set i p' } := by
  refine ⟨h.cut_eq, h.upload, h.stage, ?_, ?_, ?_, ?_, ?_, ?_, ?_⟩
  · rw [List.length_set]
    exact h.next
  · rw [List.length_set]
    exact h.begun
  · intro j p'' hp''
    rcases of_getElem?_set hp'' with ⟨rfl, rfl⟩ | ⟨_, hold⟩
    · exact hp'
    · exact h.runs j p'' hold
  · intro j p'' hp'' hnone
    rcases of_getElem?_set hp'' with ⟨rfl, rfl⟩ | ⟨_, hold⟩
    · exact h.underWay i p hp (hresult ▸ hnone)
    · exact h.underWay j p'' hold hnone
  · exact (PartRun.filterMap_part?_set hp hresult).symm ▸ h.finished
  · exact (PartRun.filterMap_fault?_set hp hresult).trans h.faults
  · exact .inl ⟨hclosing, (h.closing.resolve_right (by simp [hclosing])).2⟩

theorem Coherent.send {i : Nat} (h : t.Coherent client content cut u)
    (hstep : t.step client (LocalFile.ofBytes content) (.send i) = some t') :
    t'.Coherent client content cut u := by
  obtain ⟨hclosing, _, p, request, dialogue, hp, hsend, rfl⟩ := step_send hstep
  have hrun := h.runs i p hp
  obtain ⟨d, hd, hhistory⟩ := hrun.history
  refine h.goOn hclosing hp rfl ⟨⟨d, hd, hhistory.send hsend⟩, ?_⟩
  intro r hr
  obtain ⟨next, hasks, _⟩ := Dialogue.Running.send?_eq_some hsend
  have hvalue := hrun.result r hr
  rw [hasks] at hvalue
  cases hvalue

theorem Coherent.answer {i : Nat} {answer : Except Fault Http.Response}
    (h : t.Coherent client content cut u)
    (hstep : t.step client (LocalFile.ofBytes content) (.answer i answer) = some t') :
    t'.Coherent client content cut u := by
  obtain ⟨hclosing, _, p, dialogue, hp, hanswer, rfl⟩ := step_answer hstep
  have hrun := h.runs i p hp
  obtain ⟨d, hd, hhistory⟩ := hrun.history
  refine h.goOn hclosing hp rfl ⟨⟨d, hd, hhistory.answer hanswer⟩, ?_⟩
  intro r hr
  obtain ⟨q, next, hasks, _⟩ := Dialogue.Running.answer?_eq_some hanswer
  have hvalue := hrun.result r hr
  rw [hasks] at hvalue
  cases hvalue

theorem Coherent.finish {i : Nat} (h : t.Coherent client content cut u)
    (hstep : t.step client (LocalFile.ofBytes content) (.finish i) = some t') :
    t'.Coherent client content cut u := by
  obtain ⟨hclosing, hfailure, p, result, hp, hnone, hvalue, rfl⟩ := step_finish hstep
  obtain ⟨hcut, hcoordinator, _, hnext, hunderWay⟩ :=
    UploadJob.finishPart_keeps t.job i.toUInt64 result
  obtain ⟨hfinished, hfault⟩ := UploadJob.finishPart_counts hfailure i.toUInt64 result
  have hsmall : ∀ {j : Nat} {p : PartRun}, t.runs[j]? = some p → j.toUInt64.toNat = j := by
    intro j p hj
    have hlt := (List.getElem?_eq_some_iff.1 hj).1
    have hcount := cut.count.toNat_lt
    have hbegun := h.begun
    exact UInt64.toNat_ofNat_of_lt' (by rw [UInt64.size]; omega)
  refine ⟨hcut.trans h.cut_eq, ?_, ?_, ?_, ?_, ?_, ?_, ?_, ?_, ?_⟩
  · simp only [hcoordinator]
    exact h.upload
  · simp only [hcoordinator]
    exact h.stage
  · simp only [hnext, List.length_set]
    exact h.next
  · rw [List.length_set]
    exact h.begun
  · intro j p' hp'
    rcases of_getElem?_set hp' with ⟨rfl, rfl⟩ | ⟨_, hold⟩
    · refine ⟨(h.runs i p hp).history, fun r hr => ?_⟩
      cases hr
      exact hvalue
    · exact h.runs j p' hold
  · intro j p' hp' hresult
    rcases of_getElem?_set hp' with ⟨rfl, rfl⟩ | ⟨hne, hold⟩
    · cases hresult
    · have hindex : j.toUInt64 ≠ i.toUInt64 := by
        intro heq
        apply hne
        rw [← hsmall hp, ← hsmall hold, heq]
      simp only [hunderWay]
      exact (List.mem_erase_of_ne hindex).2 (h.underWay j p' hold hresult)
  · simp only [hfinished]
    exact PartRun.perm_filterMap_part?_finish hp hnone h.finished result
  · have hfaults := h.faults
    rw [hfailure] at hfaults
    simp only [hfault]
    exact PartRun.filterMap_fault?_finish hp hnone hfaults result
  · exact .inl ⟨hclosing, (h.closing.resolve_right (by simp [hclosing])).2⟩

theorem Coherent.close (h : t.Coherent client content cut u)
    (hstep : t.step client (LocalFile.ofBytes content) .close = some t') :
    t'.Coherent client content cut u := by
  obtain ⟨hclosing, hthrough, rfl⟩ := step_close hstep
  have hsent := (h.closing.resolve_right (by simp [hclosing])).2
  refine ⟨h.cut_eq, h.upload, h.stage, h.next, h.begun, h.runs, h.underWay, h.finished, h.faults,
    .inr ⟨_, [], rfl, ?_, ?_⟩⟩
  · rw [hsent]
    exact .start
  · intro hfailure
    have hfailure : t.job.failure = none := hfailure
    simp only [isThrough, hfailure, Option.isSome_none, Bool.false_or, Bool.and_eq_true,
      decide_eq_true_eq, List.isEmpty_iff] at hthrough
    refine ⟨by rw [← h.next, hthrough.1, h.cut_eq], fun p hp hnone => ?_⟩
    obtain ⟨i, hi⟩ := List.getElem?_of_mem hp
    have hmem := h.underWay i p hi hnone
    rw [hthrough.2] at hmem
    cases hmem

theorem Coherent.sendClosing (h : t.Coherent client content cut u)
    (hstep : t.step client (LocalFile.ofBytes content) .sendClosing = some t') :
    t'.Coherent client content cut u := by
  obtain ⟨d, request, d', hd, hsend, rfl⟩ := step_sendClosing hstep
  rcases h.closing with ⟨hnone, _⟩ | ⟨d₀, answers, hsome, hhistory, hall⟩
  · rw [hnone] at hd
    cases hd
  · rw [hsome] at hd
    cases hd
    exact ⟨h.cut_eq, h.upload, h.stage, h.next, h.begun, h.runs, h.underWay, h.finished, h.faults,
      .inr ⟨d', answers, rfl, hhistory.send hsend, hall⟩⟩

theorem Coherent.answerClosing {answer : Except Fault Http.Response}
    (h : t.Coherent client content cut u)
    (hstep : t.step client (LocalFile.ofBytes content) (.answerClosing answer) = some t') :
    t'.Coherent client content cut u := by
  obtain ⟨d, d', hd, hanswer, rfl⟩ := step_answerClosing hstep
  rcases h.closing with ⟨hnone, _⟩ | ⟨d₀, answers, hsome, hhistory, hall⟩
  · rw [hnone] at hd
    cases hd
  · rw [hsome] at hd
    cases hd
    exact ⟨h.cut_eq, h.upload, h.stage, h.next, h.begun, h.runs, h.underWay, h.finished, h.faults,
      .inr ⟨d', answers ++ [answer], rfl, hhistory.answer hanswer, hall⟩⟩

theorem Coherent.step {event : Event} (h : t.Coherent client content cut u) (hexact : cut.Exact)
    (hcontent : content.length = cut.fileSize.toNat)
    (hstep : t.step client (LocalFile.ofBytes content) event = some t') :
    t'.Coherent client content cut u := by
  cases event with
  | begin => exact h.begin hexact hcontent hstep
  | send => exact h.send hstep
  | answer => exact h.answer hstep
  | finish => exact h.finish hstep
  | close => exact h.close hstep
  | sendClosing => exact h.sendClosing hstep
  | answerClosing => exact h.answerClosing hstep

/-- **Each schedule keeps the invariant.** -/
theorem Coherent.run {events : List Event} (h : t.Coherent client content cut u)
    (hexact : cut.Exact) (hcontent : content.length = cut.fileSize.toNat)
    (hrun : t.run client (LocalFile.ofBytes content) events = some t') :
    t'.Coherent client content cut u := by
  induction events generalizing t with
  | nil =>
    cases hrun
    exact h
  | cons event events ih =>
    rw [Transfer.run, Option.bind_eq_bind, Option.bind_eq_some_iff] at hrun
    obtain ⟨next, hstep, hrest⟩ := hrun
    exact ih (h.step hexact hcontent hstep) hrest

end Transfer

/-! ### The end of an upload -/

namespace Client

variable {client : Client} {job : UploadJob} {u : Upload}

/-- An operation whose fault is taken as a value. -/
theorem run_settled_bind {α β : Type} (op : Operation α) (next : Except Fault α → Operation β) :
    (settled op >>= next).run = op.run.bind fun result => (next result).run := by
  have hsettled : (settled op).run = op.run.bind fun result => .done (.ok result) := rfl
  rw [ExceptT.run_bind, hsettled]
  exact Dialogue.bind_assoc _ _ _

theorem run_closeJob_failed {f : Fault} (hfailure : job.failure = some f)
    (hu : job.coordinator.upload = some u) (hopen : job.coordinator.stage.isOpen = true) :
    (client.closeJob job).run =
      .ask (client.sender.build client.now (abortionDescriptor u)) fun _ =>
        .done (.ok { result := .error f, parts := job.finished }) := by
  have habort : (client.abortJob job).run =
      .ask (client.sender.build client.now (abortionDescriptor u)) fun _ => .done (.ok ()) := by
    simp only [abortJob, Coordinator.enter_of_open hu hopen]
    rw [run_settled_bind, run_abortUpload]
    rfl
  simp only [closeJob, hfailure]
  rw [ExceptT.run_bind, habort]
  rfl

theorem exists_run_closeJob (client : Client) {ordered : List Part} (hfailure : job.failure = none)
    (hu : job.coordinator.upload = some u) (hopen : job.coordinator.stage.isOpen = true)
    (hordered : orderedParts job.finished = .ok ordered) :
    ∃ result : Except Fault Http.Response → Except Fault Completed,
      (client.closeJob job).run =
        .ask (client.sender.build client.now (completionDescriptor u ordered)) fun answer =>
          .done (.ok { result := result answer, parts := job.finished }) := by
  refine ⟨fun answer => (answer.bind (accept (completionDescriptor u ordered))).bind
    (completedBy u ordered), ?_⟩
  have hcomplete : client.completeJob job = client.completeUpload u job.finished := by
    simp only [completeJob, Coordinator.enter_of_open hu hopen]
  simp only [closeJob, hfailure, hcomplete]
  rw [run_settled_bind, run_completeUpload hordered]
  rfl

end Client

/-! ### What a transfer has done -/

namespace PartRun.Coherent

variable {content : Bytes} {partSize index : Nat} {u : Upload} {p : PartRun}

/-- A part sends at most one request, and that is its own. -/
theorem sends (h : p.Coherent content partSize u index) :
    p.sent = [] ∨ ∃ q, p.sent = [q] ∧ SendsPart content partSize u index q := by
  obtain ⟨d, hd, hhistory⟩ := h.history
  cases hd with
  | unopened f => exact .inl hhistory.of_done.2.1
  | exchange hrequest hresult =>
    rcases hhistory.of_exchange with ⟨_, hsent, _⟩ | ⟨_, hsent, _⟩ | ⟨_, _, hsent, _⟩
    · exact .inl hsent
    · exact .inr ⟨_, hsent, hrequest⟩
    · exact .inr ⟨_, hsent, hrequest⟩

/-- A part that was uploaded is the one that the answer to its request describes. -/
theorem describes (h : p.Coherent content partSize u index) {part : Part}
    (hpart : p.part? = some part) :
    ∃ q answer, p.sent = [q] ∧ p.answers = [answer] ∧ SendsPart content partSize u index q ∧
      Describes content partSize index answer part := by
  have hresult : p.result = some (.ok part) := by
    unfold PartRun.part? at hpart
    rcases hr : p.result with _ | r
    · rw [hr] at hpart
      cases hpart
    · rw [hr] at hpart
      rcases r with f | part'
      · cases hpart
      · cases hpart
        rfl
  have hvalue := h.result _ hresult
  obtain ⟨d, hd, hhistory⟩ := h.history
  cases hd with
  | unopened f =>
    rw [hhistory.of_done.1] at hvalue
    cases hvalue
  | exchange hrequest hdescribes =>
    rcases hhistory.of_exchange with ⟨hrun, _⟩ | ⟨hrun, _⟩ | ⟨answer, hrun, hsent, hanswers⟩
    · rw [hrun] at hvalue
      cases hvalue
    · rw [hrun] at hvalue
      cases hvalue
    · rw [hrun] at hvalue
      exact ⟨_, answer, hsent, hanswers, hrequest, hdescribes answer part (Option.some.inj hvalue)⟩

end PartRun.Coherent

namespace Transfer

variable {client : Client} {content : Bytes} {cut : FileCut} {u : Upload} {t : Transfer}

/-- All parts of the file have been uploaded: these are they, by number. -/
structure AllUploaded (content : Bytes) (cut : FileCut) (t : Transfer) (parts : List Part) :
    Prop where
  runs : t.runs.map PartRun.part? = parts.map some
  numbers : parts.map (fun p => p.number.toNat) =
    (List.range cut.count.toNat).map fun i => i + 1
  finished : t.job.finished.Perm parts
  sizes : (t.job.finished.map fun p => (p.size.getD 0).toNat).sum = content.length
  content : (List.range cut.count.toNat).flatMap (slice content cut.partSize.toNat) = content

theorem Coherent.parts_describe (h : t.Coherent client content cut u) {parts : List Part}
    (hparts : t.runs.map PartRun.part? = parts.map some) {i : Nat} {part : Part}
    (hi : parts[i]? = some part) :
    ∃ p answer, t.runs[i]? = some p ∧ p.answers = [answer] ∧
      Describes content cut.partSize.toNat i answer part := by
  have hmap : (t.runs.map PartRun.part?)[i]? = some (some part) := by
    rw [hparts, List.getElem?_map, hi, Option.map_some]
  rw [List.getElem?_map, Option.map_eq_some_iff] at hmap
  obtain ⟨p, hp, hpart⟩ := hmap
  obtain ⟨q, answer, _, hanswers, _, hdescribes⟩ := (h.runs i p hp).describes hpart
  exact ⟨p, answer, hp, hanswers, hdescribes⟩

theorem Coherent.allUploaded (h : t.Coherent client content cut u) (hexact : cut.Exact)
    (hcontent : content.length = cut.fileSize.toNat) (hbegun : t.runs.length = cut.count.toNat)
    (huploaded : ∀ p ∈ t.runs, p.part?.isSome = true) :
    AllUploaded content cut t (t.runs.filterMap PartRun.part?) := by
  have hruns := map_eq_map_some huploaded
  have hlength : (t.runs.filterMap PartRun.part?).length = cut.count.toNat := by
    rw [← hbegun, ← List.length_map (f := PartRun.part?) , hruns, List.length_map]
  have hcovered : (List.range cut.count.toNat).flatMap (slice content cut.partSize.toNat) =
      content := by
    apply flatMap_slice
    rw [hcontent]
    exact hexact.fileSize_le
  have hdescribed : ∀ (i : Nat) (hi : i < (t.runs.filterMap PartRun.part?).length),
      (t.runs.filterMap PartRun.part?)[i].number.toNat = i + 1 ∧
        ((t.runs.filterMap PartRun.part?)[i].size.getD 0).toNat =
          (slice content cut.partSize.toNat i).length := by
    intro i hi
    obtain ⟨_, _, _, _, hd⟩ := h.parts_describe hruns (List.getElem?_eq_getElem hi)
    obtain ⟨size, hsize, hlength⟩ := Option.map_eq_some_iff.1 hd.size
    exact ⟨hd.number, by rw [hsize]; exact hlength⟩
  refine ⟨hruns, ?_, h.finished, ?_, hcovered⟩
  · refine List.ext_getElem (by simp [hlength]) fun i hi _ => ?_
    rw [List.length_map] at hi
    simpa using (hdescribed i hi).1
  · have hsizes : (t.runs.filterMap PartRun.part?).map (fun p => (p.size.getD 0).toNat) =
        (List.range cut.count.toNat).map fun i => (slice content cut.partSize.toNat i).length := by
      refine List.ext_getElem (by simp [hlength]) fun i hi _ => ?_
      rw [List.length_map] at hi
      simpa using (hdescribed i hi).2
    calc (t.job.finished.map fun p => (p.size.getD 0).toNat).sum
      _ = ((t.runs.filterMap PartRun.part?).map fun p => (p.size.getD 0).toNat).sum :=
          (h.finished.map _).sum_nat
      _ = ((List.range cut.count.toNat).flatMap (slice content cut.partSize.toNat)).length := by
          rw [hsizes, List.length_flatMap]
      _ = content.length := by rw [hcovered]

theorem AllUploaded.ascending {parts : List Part} (h : AllUploaded content cut t parts) :
    parts.Pairwise fun a b => a.number < b.number := by
  have hnumbers : (parts.map fun p => p.number.toNat).Pairwise (· < ·) := by
    rw [h.numbers, List.pairwise_map]
    exact List.pairwise_lt_range.imp fun hlt => Nat.succ_lt_succ hlt
  rw [List.pairwise_map] at hnumbers
  exact hnumbers.imp fun hlt => UInt32.lt_iff_toNat_lt.2 hlt

theorem AllUploaded.length_eq {parts : List Part} (h : AllUploaded content cut t parts) :
    parts.length = cut.count.toNat := by
  simpa using congrArg List.length h.numbers

theorem AllUploaded.all {parts : List Part} (h : AllUploaded content cut t parts) :
    t.runs.length = cut.count.toNat ∧ ∀ p ∈ t.runs, p.part?.isSome = true := by
  constructor
  · simpa [h.length_eq] using congrArg List.length h.runs
  · intro p hp
    have hmem := List.mem_map_of_mem (f := PartRun.part?) hp
    rw [h.runs, List.mem_map] at hmem
    obtain ⟨part, _, hpart⟩ := hmem
    rw [← hpart]
    rfl

theorem AllUploaded.ne_nil {parts : List Part} (h : AllUploaded content cut t parts)
    (hexact : cut.Exact) : parts ≠ [] := by
  have hlength := h.length_eq
  have hcount := hexact.count
  rintro rfl
  rw [List.length_nil] at hlength
  omega

/-- Every part was uploaded if none is left and none failed. -/
theorem Coherent.isSome_part? (h : t.Coherent client content cut u)
    (hfailure : t.job.failure = none) {p : PartRun} (hp : p ∈ t.runs) (hresult : p.result ≠ none) :
    p.part?.isSome = true := by
  have hfaults := h.faults
  rw [hfailure, Option.toList_none, List.filterMap_eq_nil_iff] at hfaults
  have hfault := hfaults p hp
  rcases hr : p.result with _ | r
  · exact absurd hr hresult
  · rcases r with f | part
    · simp [PartRun.fault?, hr, Fault.of?] at hfault
    · simp [PartRun.part?, hr, Except.toOption]

/-- The request that completes the upload, once all parts are uploaded. -/
structure Completes (content : Bytes) (cut : FileCut) (u : Upload) (t : Transfer)
    (q : Http.Request) : Prop where
  method : q.method = .post
  upload : q.Carries "uploadId" u.uploadId
  manifest : ∃ parts, AllUploaded content cut t parts ∧
    q.body.collect = .ok (utf8 (manifest parts))

/-- Without a failure the closing dialogue is a completion. -/
theorem Coherent.completion (h : t.Coherent client content cut u) (hexact : cut.Exact)
    (hcontent : content.length = cut.fileSize.toNat) (hfailure : t.job.failure = none) :
    (t.closingSent = [] ∧ t.outcome? = none) ∨
      ∃ q, t.closingSent = [q] ∧ Completes content cut u t q := by
  rcases h.closing with ⟨hnone, hsent⟩ | ⟨d, answers, hsome, hhistory, hall⟩
  · exact .inl ⟨hsent, by rw [outcome?, hnone]; rfl⟩
  · obtain ⟨hbegun, hresults⟩ := hall hfailure
    have huploaded := h.allUploaded hexact hcontent hbegun fun p hp =>
      h.isSome_part? hfailure hp (hresults p hp)
    obtain ⟨result, hrun⟩ := Client.exists_run_closeJob client hfailure h.upload
      h.stage (Client.orderedParts_of_perm (huploaded.ne_nil hexact) huploaded.finished
        huploaded.ascending)
    rw [hrun] at hhistory
    have hcompletes : Completes content cut u t (client.sender.build client.now
        (Client.completionDescriptor u (t.runs.filterMap PartRun.part?))) := by
      refine ⟨rfl, Sender.carries_build _ _ (by decide) (Client.get?_uploadQuery u),
        _, huploaded, ?_⟩
      exact Http.Body.collect_ofBytes (utf8 (manifest _))
    rcases hhistory.of_exchange with ⟨hd, hsent, _⟩ | ⟨_, hsent, _⟩ | ⟨_, _, hsent, _⟩
    · exact .inl ⟨hsent, by rw [outcome?, hsome, hd]; rfl⟩
    · exact .inr ⟨_, hsent, hcompletes⟩
    · exact .inr ⟨_, hsent, hcompletes⟩

/-- After a failure it is an abortion, and the failure is the outcome whatever is answered. -/
theorem Coherent.abortion (h : t.Coherent client content cut u) {f : Fault}
    (hfailure : t.job.failure = some f) :
    (∀ q ∈ t.closingSent, q.method = .delete) ∧
      ∀ outcome, t.outcome? = some outcome →
        outcome = .ok { result := .error f, parts := t.job.finished } := by
  rcases h.closing with ⟨hnone, hsent⟩ | ⟨d, answers, hsome, hhistory, _⟩
  · refine ⟨?_, ?_⟩
    · simp [hsent]
    · simp [outcome?, hnone]
  · rw [Client.run_closeJob_failed hfailure h.upload h.stage] at hhistory
    rcases hhistory.of_exchange with ⟨hd, hsent, _⟩ | ⟨hd, hsent, _⟩ | ⟨_, hd, hsent, _⟩
    · refine ⟨by simp [hsent], ?_⟩
      rw [outcome?, hsome, hd]
      intro outcome houtcome
      cases houtcome
    · refine ⟨?_, ?_⟩
      · intro q hq
        rw [hsent] at hq
        obtain rfl := List.mem_singleton.1 hq
        rfl
      · rw [outcome?, hsome, hd]
        intro outcome houtcome
        cases houtcome
    · refine ⟨?_, ?_⟩
      · intro q hq
        rw [hsent] at hq
        obtain rfl := List.mem_singleton.1 hq
        rfl
      · rw [outcome?, hsome, hd]
        intro outcome houtcome
        cases houtcome
        rfl

theorem failure_kept {file : LocalFile} {event : Event} {t' : Transfer} {f : Fault}
    (hstep : t.step client file event = some t') (h : t.job.failure = some f) :
    t'.job.failure = some f := by
  cases event with
  | begin =>
    obtain ⟨_, hnone, _⟩ := step_begin hstep
    rw [h] at hnone
    cases hnone
  | send =>
    obtain ⟨_, hnone, _⟩ := step_send hstep
    rw [h] at hnone
    cases hnone
  | answer =>
    obtain ⟨_, hnone, _⟩ := step_answer hstep
    rw [h] at hnone
    cases hnone
  | finish =>
    obtain ⟨_, hnone, _⟩ := step_finish hstep
    rw [h] at hnone
    cases hnone
  | close =>
    obtain ⟨_, _, rfl⟩ := step_close hstep
    exact h
  | sendClosing =>
    obtain ⟨_, _, _, _, _, rfl⟩ := step_sendClosing hstep
    exact h
  | answerClosing =>
    obtain ⟨_, _, _, _, rfl⟩ := step_answerClosing hstep
    exact h

/-- What can be relied on at each moment of a transfer. -/
structure Sound (client : Client) (content : Bytes) (cut : FileCut) (u : Upload) (t : Transfer) :
    Prop where
  exact : cut.Exact
  begun : t.runs.length ≤ cut.count.toNat
  /-- Each part sends its slice, once at most, and what it becomes is in the answer to that. -/
  sent : ∀ (i : Nat) (p : PartRun), t.runs[i]? = some p →
    p.sent = [] ∨ ∃ q, p.sent = [q] ∧ SendsPart content cut.partSize.toNat u i q
  described : ∀ (i : Nat) (p : PartRun) (part : Part), t.runs[i]? = some p → p.part? = some part →
    ∃ q answer, p.sent = [q] ∧ p.answers = [answer] ∧
      SendsPart content cut.partSize.toNat u i q ∧
      Describes content cut.partSize.toNat i answer part
  /-- The job reports each part that was uploaded, and one fault at most. -/
  finished : t.job.finished.Perm (t.runs.filterMap PartRun.part?)
  faults : t.runs.filterMap PartRun.fault? = t.job.failure.toList
  /-- A completion is sent once and after all parts. -/
  completion : ∀ q ∈ t.closingSent, q.method = .post →
    t.closingSent = [q] ∧ Completes content cut u t q
  completed_iff : t.outcome?.isSome = true →
    ((∃ q ∈ t.closingSent, q.method = .post) ↔
      t.runs.length = cut.count.toNat ∧ ∀ p ∈ t.runs, p.part?.isSome = true)
  /-- After a failure there is an abortion only, and the failure is the outcome. -/
  failed : ∀ f, t.job.failure = some f →
    (∀ q ∈ t.closingSent, q.method = .delete) ∧
      ∀ outcome, t.outcome? = some outcome →
        outcome = .ok { result := .error f, parts := t.job.finished }
  failure_kept : ∀ event t', t.step client (LocalFile.ofBytes content) event = some t' →
    ∀ f, t.job.failure = some f → t'.job.failure = some f

theorem Coherent.sound (h : t.Coherent client content cut u) (hexact : cut.Exact)
    (hcontent : content.length = cut.fileSize.toNat) : t.Sound client content cut u := by
  have hcompletion : ∀ q ∈ t.closingSent, q.method = .post →
      t.closingSent = [q] ∧ Completes content cut u t q := by
    intro q hq hpost
    rcases hfailure : t.job.failure with _ | f
    · rcases h.completion hexact hcontent hfailure with ⟨hnone, _⟩ | ⟨q', hsent, hcompletes⟩
      · rw [hnone] at hq
        cases hq
      · rw [hsent] at hq
        obtain rfl := List.mem_singleton.1 hq
        exact ⟨hsent, hcompletes⟩
    · have hdelete := (h.abortion hfailure).1 q hq
      rw [hpost] at hdelete
      cases hdelete
  refine ⟨hexact, h.begun, fun i p hp => (h.runs i p hp).sends,
    fun i p part hp => (h.runs i p hp).describes, h.finished, h.faults, hcompletion, ?_,
    fun f => h.abortion, fun event t' hstep f => failure_kept hstep⟩
  intro houtcome
  constructor
  · rintro ⟨q, hq, hpost⟩
    obtain ⟨_, hcompletes⟩ := hcompletion q hq hpost
    obtain ⟨parts, huploaded, _⟩ := hcompletes.manifest
    exact huploaded.all
  · rintro ⟨_, hall⟩
    have hfailure : t.job.failure = none := by
      rcases hf : t.job.failure with _ | f
      · rfl
      · have hfaults := h.faults
        have hmem : f ∈ t.runs.filterMap PartRun.fault? := by simp [hfaults, hf]
        obtain ⟨p, hp, hfault⟩ := List.mem_filterMap.1 hmem
        have hpart := hall p hp
        rw [PartRun.part?_eq_none hfault] at hpart
        cases hpart
    rcases h.completion hexact hcontent hfailure with ⟨_, hnone⟩ | ⟨q, hsent, hcompletes⟩
    · rw [hnone] at houtcome
      cases houtcome
    · exact ⟨q, by simp [hsent], hcompletes.method⟩

end Transfer

end ObjectStore
