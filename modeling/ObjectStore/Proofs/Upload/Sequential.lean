import ObjectStore.Proofs.Upload.Transfer
/-!
# One part after the other

`Client.uploadFile` is one of the schedules: a part begins when the one before it is taken in.
Whatever a server answers to it, there is a transfer that is answered the same, sends the same
requests and comes to the same outcome (`exists_schedule_of_uploadFile`), so what holds of every
transfer holds of it.
-/

namespace ObjectStore

namespace Transfer

variable {client : Client} {file : LocalFile} {t t' : Transfer}

theorem run_append (first second : List Event) :
    t.run client file (first ++ second) =
      (t.run client file first).bind fun t' => t'.run client file second := by
  induction first generalizing t with
  | nil => rfl
  | cons event first ih =>
    simp only [List.cons_append, run, Option.bind_eq_bind]
    rcases t.step client file event with _ | next
    · rfl
    · exact ih

theorem run_cons {event : Event} {events : List Event} (h : t.step client file event = some t') :
    t.run client file (event :: events) = t'.run client file events := by
  simp only [run, h]
  rfl

/-- The transfer with another run in place of the one at an index. -/
def setRun (t : Transfer) (i : Nat) (p : PartRun) : Transfer := { t with runs := t.runs.set i p }

theorem setRun_self {p : PartRun} {i : Nat} (hp : t.runs[i]? = some p) : t.setRun i p = t := by
  obtain ⟨before, after, hruns, _, hset⟩ := exists_split hp
  rw [setRun, hset, ← hruns]

@[simp] theorem setRun_setRun (p p' : PartRun) (i : Nat) :
    (t.setRun i p).setRun i p' = t.setRun i p' := by
  simp only [setRun, List.set_set]

theorem getElem?_setRun {p p' : PartRun} {i : Nat} (hp : t.runs[i]? = some p) :
    (t.setRun i p').runs[i]? = some p' :=
  List.getElem?_set_self (List.getElem?_eq_some_iff.1 hp).1

/-- A part can hold its dialogue to the end. -/
theorem exists_run_of_replay (client : Client) (file : LocalFile)
    {d : Dialogue Http.Request (Except Fault Http.Response) (Except Fault Part)} {i : Nat}
    {p : PartRun} {answers rest : List (Except Fault Http.Response)}
    {qs : List Http.Request} {value : Except Fault Part} (hopen : t.isOpen = true)
    (hp : t.runs[i]? = some p) (hd : p.dialogue = ⟨d, false⟩)
    (hreplay : d.replay answers = (qs, rest, some value)) :
    ∃ events taken, t.run client file events =
        some (t.setRun i ⟨⟨.done value, false⟩, p.sent ++ qs, p.answers ++ taken, p.result⟩) ∧
      events.filterMap Event.answer? ⊆ answers := by
  induction d generalizing t p answers qs with
  | done a =>
    cases hreplay
    refine ⟨[], [], ?_, List.nil_subset _⟩
    rw [List.append_nil, List.append_nil, ← hd, setRun_self hp]
    rfl
  | ask q next ih =>
    cases answers with
    | nil => cases hreplay
    | cons r answers =>
      rcases hnext : (next r).replay answers with ⟨qs', rest', value'⟩
      simp only [Dialogue.replay, hnext] at hreplay
      cases hreplay
      let asked : PartRun := ⟨⟨.ask q next, true⟩, p.sent ++ [q], p.answers, p.result⟩
      let answered : PartRun := ⟨⟨next r, false⟩, p.sent ++ [q], p.answers ++ [r], p.result⟩
      have hsend : t.step client file (.send i) = some (t.setRun i asked) := by
        simp only [step, hopen, if_true, hp, hd, Option.bind_eq_bind, Option.bind_some]
        rfl
      have hopen' : (t.setRun i asked).isOpen = true := hopen
      have hanswer : (t.setRun i asked).step client file (.answer i r) =
          some ((t.setRun i asked).setRun i answered) := by
        simp only [step, hopen', if_true, getElem?_setRun hp, Option.bind_eq_bind, Option.bind_some]
        rfl
      rw [setRun_setRun] at hanswer
      obtain ⟨events, taken, hrun, htaken⟩ := ih r (t := t.setRun i answered) (p := answered) hopen
        (getElem?_setRun hp) rfl hnext
      refine ⟨.send i :: .answer i r :: events, r :: taken, ?_, List.cons_subset_cons r htaken⟩
      rw [run_cons hsend, run_cons hanswer, hrun, setRun_setRun]
      simp only [answered, List.append_assoc, List.singleton_append]
  | unfinished => cases hreplay

/-- A part can begin, hold its dialogue and be taken in before anything else happens. -/
theorem exists_run_of_part {u : Upload} {begun : UploadJob} (hopen : t.isOpen = true)
    (hcan : t.job.canBegin = true) (hbegin : t.job.beginPart = .ok (u, begun))
    (hindex : t.runs.length.toUInt64 = t.job.next)
    {answers rest : List (Except Fault Http.Response)} {qs : List Http.Request}
    {value : Except Fault Part}
    (hreplay : (UploadJob.partOperation client file t.job.cut u t.job.next).run.replay answers =
      (qs, rest, some value)) :
    ∃ events taken, t.run client file events = some { t with
        job := begun.finishPart t.job.next value,
        runs := t.runs ++ [⟨⟨.done value, false⟩, qs, taken, some value⟩] } ∧
      events.filterMap Event.answer? ⊆ answers := by
  let begunRun : PartRun :=
    { dialogue := ⟨(UploadJob.partOperation client file t.job.cut u t.job.next).run, false⟩ }
  let t₁ : Transfer := { t with job := begun, runs := t.runs ++ [begunRun] }
  have hfailure : begun.failure = t.job.failure := by
    obtain ⟨_, rfl⟩ := UploadJob.beginPart_eq_ok hbegin
    rfl
  have hbeginStep : t.step client file .begin = some t₁ := by
    simp only [step, hopen, hcan, hbegin]
    rfl
  have hopen₁ : t₁.isOpen = true := by
    rw [isOpen] at hopen ⊢
    rw [hfailure]
    exact hopen
  have hnew : t₁.runs[t.runs.length]? = some begunRun := List.getElem?_concat_length
  obtain ⟨events, taken, hrun, htaken⟩ := exists_run_of_replay client file hopen₁
    hnew rfl hreplay
  let held : PartRun := ⟨⟨.done value, false⟩, qs, taken, none⟩
  have hheld : t₁.run client file events = some (t₁.setRun t.runs.length held) := hrun
  have hopenHeld : (t₁.setRun t.runs.length held).isOpen = true := hopen₁
  have hfinish : (t₁.setRun t.runs.length held).step client file (.finish t.runs.length) =
      some { t with
        job := begun.finishPart t.job.next value,
        runs := t.runs ++ [⟨⟨.done value, false⟩, qs, taken, some value⟩] } := by
    simp only [step, hopenHeld, if_true, getElem?_setRun hnew, Option.bind_eq_bind,
      Option.bind_some, hindex]
    simp [held, setRun, t₁, Dialogue.Running.value?]
  refine ⟨.begin :: (events ++ [.finish t.runs.length]), taken, ?_, ?_⟩
  · rw [run_cons hbeginStep, run_append, hheld, Option.bind_some, run_cons hfinish]
    rfl
  · rw [List.filterMap_cons_none rfl, List.filterMap_append]
    exact List.append_subset.2 ⟨htaken, List.nil_subset _⟩

/-! ### From part to part -/

/-- The transfer stands between two parts with `n` more to go, and no part has failed. -/
structure Between (u : Upload) (n : Nat) (t : Transfer) : Prop where
  upload : t.job.coordinator.upload = some u
  stage : t.job.coordinator.stage.isOpen = true
  closing : t.closing = none
  failure : t.job.failure = none
  idle : t.job.underWay = []
  limit : 0 < t.job.limit.toNat
  next : t.job.next.toNat = t.runs.length
  left : t.runs.length + n = t.job.cut.count.toNat

namespace Between

variable {u : Upload} {n : Nat}

theorem isOpen (h : t.Between u n) : t.isOpen = true := by
  simp [Transfer.isOpen, h.closing, h.failure]

theorem isThrough (h : t.Between u 0) : t.isThrough = true := by
  have hcount : t.job.next = t.job.cut.count := by
    rw [← UInt64.toNat_inj, h.next, ← h.left, Nat.add_zero]
  simp [Transfer.isThrough, hcount, h.idle]

theorem canBegin (h : t.Between u (n + 1)) : t.job.canBegin = true := by
  have hlt : t.job.next < t.job.cut.count := by
    rw [UInt64.lt_iff_toNat_lt, h.next, ← h.left]
    omega
  simp [UploadJob.canBegin, h.failure, hlt, h.idle, h.limit]

theorem index_eq (h : t.Between u n) : t.runs.length.toUInt64 = t.job.next := by
  rw [← h.next]
  exact UInt64.ofNat_toNat

theorem exists_beginPart (h : t.Between u n) : ∃ begun, t.job.beginPart = .ok (u, begun) := by
  simp only [UploadJob.beginPart, Coordinator.enter_of_open h.upload h.stage]
  exact ⟨_, rfl⟩

/-- A part that did not fail leaves one less to go. -/
theorem finish (h : t.Between u (n + 1)) {begun : UploadJob}
    (hbegin : t.job.beginPart = .ok (u, begun)) {result : Except Fault Part}
    (hfailure : (begun.finishPart t.job.next result).failure = none) (p : PartRun) :
    ({ t with job := begun.finishPart t.job.next result, runs := t.runs ++ [p] } :
      Transfer).Between u n := by
  obtain ⟨hcut, hcoordinator, hlimit, hnext, hunderWay⟩ :=
    UploadJob.finishPart_keeps begun t.job.next result
  obtain ⟨_, rfl⟩ := UploadJob.beginPart_eq_ok hbegin
  have hsucc : (t.job.next + 1).toNat = t.runs.length + 1 := by
    have hmax := t.job.cut.count.toNat_lt
    have hleft := h.left
    rw [UInt64.toNat_add, h.next, UInt64.toNat_one]
    exact Nat.mod_eq_of_lt (by omega)
  refine ⟨?_, ?_, h.closing, hfailure, ?_, ?_, ?_, ?_⟩
  · rw [hcoordinator]
    exact h.upload
  · rw [hcoordinator]
    rfl
  · rw [hunderWay, h.idle]
    simp
  · rw [hlimit]
    exact h.limit
  · rw [hnext, hsucc, List.length_append, List.length_singleton]
  · rw [hcut, List.length_append, List.length_singleton, ← h.left]
    omega

end Between

theorem run_uploadParts_succ {u : Upload} {begun job : UploadJob} (n : Nat)
    (hbegin : job.beginPart = .ok (u, begun)) :
    (client.uploadParts file (n + 1) job).run =
      (UploadJob.partOperation client file job.cut u job.next).run.bind fun result =>
        if (begun.finishPart job.next result).failure.isSome = true then
          .done (.ok (begun.finishPart job.next result))
        else (client.uploadParts file n (begun.finishPart job.next result)).run := by
  have hrun : (client.uploadParts file (n + 1) job).run =
      (Client.settled (UploadJob.partOperation client file job.cut u job.next) >>= fun result =>
        if (begun.finishPart job.next result).failure.isSome = true then
          return begun.finishPart job.next result
        else client.uploadParts file n (begun.finishPart job.next result)).run := by
    simp only [Client.uploadParts, hbegin]
    rfl
  rw [hrun, Client.run_settled_bind]
  refine congrArg (Dialogue.bind _) (funext fun result => ?_)
  split
  · rfl
  · rfl

/-- Uploading the parts one after the other is a schedule. -/
theorem exists_run_of_uploadParts {n : Nat} {u : Upload} {result : Except Fault UploadJob}
    {answers rest : List (Except Fault Http.Response)} {qs : List Http.Request}
    (h : t.Between u n)
    (hreplay : (client.uploadParts file n t.job).run.replay answers =
      (qs, rest, some result)) :
    ∃ events t', t.run client file events = some t' ∧ result = .ok t'.job ∧ t'.closing = none ∧
      t'.isThrough = true ∧ t'.closingSent = t.closingSent ∧
      t'.runs.flatMap PartRun.sent = t.runs.flatMap PartRun.sent ++ qs ∧
      events.filterMap Event.answer? ⊆ answers := by
  induction n generalizing t answers qs with
  | zero =>
    cases hreplay
    exact ⟨[], t, rfl, rfl, h.closing, h.isThrough, rfl, by simp, List.nil_subset _⟩
  | succ n ih =>
    obtain ⟨begun, hbegin⟩ := h.exists_beginPart
    rw [run_uploadParts_succ n hbegin] at hreplay
    obtain ⟨first, second, left, value, hfirst, hsecond, rfl⟩ :=
      Dialogue.replay_bind_eq_some hreplay
    obtain ⟨events, taken, hrun, htaken⟩ :=
      exists_run_of_part h.isOpen h.canBegin hbegin h.index_eq hfirst
    rcases hfail : (begun.finishPart t.job.next value).failure with _ | f
    · rw [hfail, Option.isSome_none, if_neg Bool.false_ne_true] at hsecond
      have hleft : left ⊆ answers := Dialogue.subset_of_replay hfirst
      have hbetween := h.finish hbegin hfail ⟨⟨.done value, false⟩, first, taken, some value⟩
      obtain ⟨events', t', hrun', hjob, hclosing', hthrough, hsent, hruns, htaken'⟩ :=
        ih hbetween hsecond
      refine ⟨events ++ events', t', ?_, hjob, hclosing', hthrough, hsent, ?_, ?_⟩
      · rw [run_append, hrun]
        exact hrun'
      · rw [hruns]
        simp
      · rw [List.filterMap_append]
        exact List.append_subset.2 ⟨htaken, List.Subset.trans htaken' hleft⟩
    · -- the part has failed, and no other begins
      rw [hfail, Option.isSome_some, if_pos rfl] at hsecond
      cases hsecond
      refine ⟨events, _, hrun, rfl, h.closing, ?_, rfl, by simp, htaken⟩
      simp [Transfer.isThrough, hfail]

/-- The closing dialogue can be held to the end. -/
theorem exists_run_of_closing (client : Client) (file : LocalFile)
    {d : Dialogue Http.Request (Except Fault Http.Response)
      (Except Fault Client.FileUpload)} {answers rest : List (Except Fault Http.Response)}
    {qs : List Http.Request} {outcome : Except Fault Client.FileUpload}
    (hclosing : t.closing = some ⟨d, false⟩)
    (hreplay : d.replay answers = (qs, rest, some outcome)) :
    ∃ events, t.run client file events = some { t with
        closing := some ⟨.done outcome, false⟩, closingSent := t.closingSent ++ qs } ∧
      events.filterMap Event.answer? ⊆ answers := by
  induction d generalizing t answers qs with
  | done a =>
    cases hreplay
    refine ⟨[], ?_, List.nil_subset _⟩
    rw [List.append_nil, ← hclosing]
    rfl
  | ask q next ih =>
    cases answers with
    | nil => cases hreplay
    | cons r answers =>
      rcases hnext : (next r).replay answers with ⟨qs', rest', value'⟩
      simp only [Dialogue.replay, hnext] at hreplay
      cases hreplay
      have hsend : t.step client file .sendClosing = some { t with
          closing := some ⟨.ask q next, true⟩, closingSent := t.closingSent ++ [q] } := by
        simp only [step, hclosing, Option.bind_eq_bind, Option.bind_some]
        rfl
      obtain ⟨events, hrun, htaken⟩ := ih r (t := { t with
        closing := some ⟨next r, false⟩, closingSent := t.closingSent ++ [q] }) rfl hnext
      refine ⟨.sendClosing :: .answerClosing r :: events, ?_, List.cons_subset_cons r htaken⟩
      rw [run_cons hsend, run_cons rfl, hrun]
      simp only [List.append_assoc, List.singleton_append]
  | unfinished => cases hreplay

end Transfer

/-- What follows once the answer to the start of an upload is there. -/
def Client.proceed (client : Client) (file : LocalFile) (cut : FileCut) (plan : PartPlan)
    (started : Except Fault Upload) : Operation FileUpload :=
  match started with
  | .error f => return { result := .error f }
  | .ok u => do
    let job ← client.uploadParts file cut.count.toNat (UploadJob.start u cut plan)
    client.closeJob job

/-- An upload that can be cut starts, and goes on with what the start comes to. -/
theorem Client.run_uploadFile {client : Client} {bucket key : String} {file : LocalFile}
    {props : ObjectProperties} {plan : PartPlan}
    (hcheck : (FileCut.ofPlan file.size plan).check = .ok ()) :
    (client.uploadFile bucket key (.ok file) props plan).run =
      (client.startUpload bucket key props).run.bind fun started =>
        (client.proceed file (FileCut.ofPlan file.size plan) plan started).run := by
  rw [← run_settled_bind]
  simp only [uploadFile, hcheck]
  refine congrArg ExceptT.run (congrArg (bind _) (funext fun started => ?_))
  rcases started with f | u
  · rfl
  · refine congrArg (bind _) (funext fun job => ?_)
    rcases hfailure : job.failure with _ | f
    · simp only [closeJob, hfailure]
    · simp only [closeJob, hfailure]

/-- **Uploading one part after the other is a schedule.** -/
theorem Client.exists_schedule_of_uploadFile {client : Client} {bucket key : String}
    {file : LocalFile} {props : ObjectProperties} {plan : PartPlan}
    {answers rest left : List (Except Fault Http.Response)} {qs first : List Http.Request}
    {outcome : Except Fault FileUpload} {u : Upload}
    (hcheck : (FileCut.ofPlan file.size plan).check = .ok ())
    (hstart : (client.startUpload bucket key props).run.replay answers =
      (first, left, some (.ok u)))
    (hreplay : (client.uploadFile bucket key (.ok file) props plan).run.replay answers =
      (qs, rest, some outcome)) :
    ∃ events t, Transfer.run client file
        { job := UploadJob.start u (FileCut.ofPlan file.size plan) plan } events = some t ∧
      t.outcome? = some outcome ∧
      qs = first ++ t.runs.flatMap PartRun.sent ++ t.closingSent ∧
      events.filterMap Transfer.Event.answer? ⊆ answers := by
  let cut := FileCut.ofPlan file.size plan
  rw [run_uploadFile hcheck] at hreplay
  obtain ⟨first', second, left', started, hstarted, hsecond, rfl⟩ :=
    Dialogue.replay_bind_eq_some hreplay
  rw [hstart] at hstarted
  cases hstarted
  have hleft : left ⊆ answers := Dialogue.subset_of_replay hstart
  have hsecond : ((client.uploadParts file cut.count.toNat (UploadJob.start u cut plan)).run.bind
      (ExceptT.bindCont client.closeJob)).replay left = (second, rest, some outcome) := hsecond
  obtain ⟨parts, closing, left', result, hparts, hclosing, rfl⟩ :=
    Dialogue.replay_bind_eq_some hsecond
  have hleft' : left' ⊆ left := Dialogue.subset_of_replay hparts
  have hlimit : 0 < (UploadJob.start u cut plan).limit.toNat := by
    rw [UploadJob.start, FileCut.toNat_max]
    exact Nat.lt_of_lt_of_le Nat.zero_lt_one (Nat.le_max_right _ _)
  obtain ⟨events, t, hevents, rfl, hnone, hthrough, hsent, hruns, htaken⟩ :=
    Transfer.exists_run_of_uploadParts (t := { job := UploadJob.start u cut plan })
      ⟨rfl, rfl, rfl, rfl, rfl, hlimit, rfl, Nat.zero_add _⟩ hparts
  have hclose : t.step client file .close = some { t with
      closing := some ⟨(client.closeJob t.job).run, false⟩ } := by
    simp only [Transfer.step, hnone, hthrough]
    rfl
  obtain ⟨last, hlast, htaken'⟩ := Transfer.exists_run_of_closing client file
    (t := { t with closing := some ⟨(client.closeJob t.job).run, false⟩ }) rfl hclosing
  refine ⟨events ++ .close :: last, { t with
    closing := some ⟨.done outcome, false⟩, closingSent := t.closingSent ++ closing },
    ?_, rfl, ?_, ?_⟩
  · rw [Transfer.run_append, hevents, Option.bind_some, Transfer.run_cons hclose]
    exact hlast
  · simp only [hruns, hsent]
    simp
  · rw [List.filterMap_append, List.filterMap_cons_none rfl]
    have hafter : left' ⊆ answers := List.Subset.trans hleft' hleft
    exact List.append_subset.2
      ⟨List.Subset.trans htaken hleft, List.Subset.trans htaken' hafter⟩

end ObjectStore
