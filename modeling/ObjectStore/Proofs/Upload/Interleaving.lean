import ObjectStore.Proofs.Lists
import ObjectStore.Proofs.Upload.Coordinator
import ObjectStore.Proofs.Upload.Requests
/-!
# Calls on one upload, in any order

Any number of calls may be under way on one coordinator.  A call enters, holds its dialogue
with the server and leaves, and these are single steps: between any two of them steps of other
calls may stand.  Starting has the coordinator to itself, so it is one step with all its
answers.

A call that completes or aborts sets the stage when it leaves, whatever the stage is by then.
This is sound because **while such a call is under way the stage is its own**, and at that
stage no other call enters.  `Traffic.Coherent` says this of a state, each step keeps it, and
what users of a coordinator can rely on follows from it (`Traffic.Sound`).
-/

namespace ObjectStore

namespace Coordinator

/-- A call between entering and leaving. -/
structure CallUnderWay where
  call : Call
  /-- The upload that the call is about. -/
  upload : Upload
  /-- The stage at which the call found the coordinator. -/
  previous : Stage
  dialogue : Dialogue.Running Http.Request (Except Fault Http.Response) (Except Fault Reply)

/-- A coordinator, the calls that are under way and the requests that calls have sent. -/
structure Traffic where
  coordinator : Coordinator
  calls : List CallUnderWay := []
  sent : List Http.Request := []

/-- What happens next: a call that is under way is given by its place in the list. -/
inductive Event where
  | start (props : ObjectProperties) (answers : List (Except Fault Http.Response))
  | enter (call : Call)
  | send (i : Nat)
  | answer (i : Nat) (answer : Except Fault Http.Response)
  | leave (i : Nat)

/-- What is seen of an event. -/
inductive Effect where
  | started (result : Except Fault Upload)
  | entered
  | refused (fault : Fault)
  | sent (request : Http.Request)
  | answered
  | left (call : Call) (result : Except Fault Reply)

namespace Traffic

/-- One step, if the event can happen. -/
def step (client : Client) (s : Traffic) : Event → Option (Effect × Traffic)
  | .start props answers =>
    if s.calls.isEmpty then
      match s.coordinator.enterStart with
      | .error f => some (.started (.error f), s)
      | .ok () =>
        let operation := client.startUpload s.coordinator.bucket s.coordinator.key props
        match (operation.run.replay answers).2.2 with
        | some (.ok u) =>
          some (.started (.ok u), { s with coordinator := s.coordinator.leaveStart u })
        | some (.error f) => some (.started (.error f), s)
        | none => none
    else none
  | .enter call =>
    match s.coordinator.enter call with
    | .error f => some (.refused f, s)
    | .ok (upload, previous, coordinator) =>
      let dialogue := { rest := (call.operation client upload).run }
      some (.entered,
        { s with coordinator, calls := s.calls ++ [{ call, upload, previous, dialogue }] })
  | .send i => do
    let f ← s.calls[i]?
    let (request, dialogue) ← f.dialogue.send?
    return (.sent request,
      { s with calls := s.calls.set i { f with dialogue }, sent := s.sent ++ [request] })
  | .answer i answer => do
    let f ← s.calls[i]?
    let dialogue ← f.dialogue.answer? answer
    return (.answered, { s with calls := s.calls.set i { f with dialogue } })
  | .leave i => do
    let f ← s.calls[i]?
    let result ← f.dialogue.value?
    return (.left f.call result,
      { s with coordinator := s.coordinator.leave f.call f.previous result.isOk,
               calls := s.calls.eraseIdx i })

/-- Some steps in turn, if each of the events can happen. -/
def run (client : Client) (s : Traffic) : List Event → Option Traffic
  | [] => some s
  | event :: events => do
    let (_, s') ← s.step client event
    s'.run client events

end Traffic

/-! ### What one step does -/

namespace Traffic

variable {client : Client} {c : Coordinator} {s s' : Traffic} {effect : Effect}

/-- Starting changes nothing, or it starts the upload that was not started. -/
theorem step_start {props : ObjectProperties} {answers : List (Except Fault Http.Response)}
    (h : s.step client (.start props answers) = some (effect, s')) :
    s.calls = [] ∧
      ((∃ f, effect = .started (.error f) ∧ s' = s) ∨
        ∃ u, effect = .started (.ok u) ∧ s.coordinator.stage = .notStarted ∧
          s' = { s with coordinator := s.coordinator.leaveStart u }) := by
  simp only [step] at h
  split at h
  · next hcalls =>
    refine ⟨by simpa using hcalls, ?_⟩
    split at h
    · next f _ => cases h; exact .inl ⟨f, rfl, rfl⟩
    · next hstart =>
      have hstage := stage_of_enterStart hstart
      split at h
      · next u _ => cases h; exact .inr ⟨u, rfl, hstage, rfl⟩
      · next f _ => cases h; exact .inl ⟨f, rfl, rfl⟩
      · cases h
  · cases h

/-- A call is refused and changes nothing, or it enters at an open stage. -/
theorem step_enter {call : Call} (h : s.step client (.enter call) = some (effect, s')) :
    (∃ f, effect = .refused f ∧ s' = s) ∨
      ∃ u, effect = .entered ∧ s.coordinator.upload = some u ∧
        s.coordinator.stage.isOpen = true ∧
        s' = { s with
          coordinator := { s.coordinator with stage := call.stage },
          calls := s.calls ++
            [⟨call, u, s.coordinator.stage, ⟨(call.operation client u).run, false⟩⟩] } := by
  simp only [step] at h
  split at h
  · next f _ => cases h; exact .inl ⟨f, rfl, rfl⟩
  · next u previous coordinator henter =>
    obtain ⟨hu, hopen, rfl, rfl⟩ := enter_eq_ok henter
    cases h
    exact .inr ⟨u, rfl, hu, hopen, rfl⟩

theorem step_send {i : Nat} (h : s.step client (.send i) = some (effect, s')) :
    ∃ before f after request next, s.calls = before ++ f :: after ∧
      f.dialogue = ⟨.ask request next, false⟩ ∧ effect = .sent request ∧
      s' = { s with
        calls := before ++ { f with dialogue := ⟨.ask request next, true⟩ } :: after,
        sent := s.sent ++ [request] } := by
  simp only [step, Option.bind_eq_bind, Option.bind_eq_some_iff] at h
  obtain ⟨f, hf, ⟨request, dialogue⟩, hsend, h⟩ := h
  obtain ⟨next, hdialogue, rfl⟩ := Dialogue.Running.send?_eq_some hsend
  obtain ⟨before, after, hcalls, _, hset⟩ := exists_split hf
  cases h
  exact ⟨before, f, after, request, next, hcalls, hdialogue, rfl, by rw [hset]⟩

theorem step_answer {i : Nat} {r : Except Fault Http.Response}
    (h : s.step client (.answer i r) = some (effect, s')) :
    ∃ before f after request next, s.calls = before ++ f :: after ∧
      f.dialogue = ⟨.ask request next, true⟩ ∧ effect = .answered ∧
      s' = { s with calls := before ++ { f with dialogue := ⟨next r, false⟩ } :: after } := by
  simp only [step, Option.bind_eq_bind, Option.bind_eq_some_iff] at h
  obtain ⟨f, hf, dialogue, hanswer, h⟩ := h
  obtain ⟨request, next, hdialogue, rfl⟩ := Dialogue.Running.answer?_eq_some hanswer
  obtain ⟨before, after, hcalls, _, hset⟩ := exists_split hf
  cases h
  exact ⟨before, f, after, request, next, hcalls, hdialogue, rfl, by rw [hset]⟩

theorem step_leave {i : Nat} (h : s.step client (.leave i) = some (effect, s')) :
    ∃ before f after result, s.calls = before ++ f :: after ∧
      f.dialogue.value? = some result ∧ effect = .left f.call result ∧
      s' = { s with
        coordinator := s.coordinator.leave f.call f.previous result.isOk,
        calls := before ++ after } := by
  simp only [step, Option.bind_eq_bind, Option.bind_eq_some_iff] at h
  obtain ⟨f, hf, result, hvalue, h⟩ := h
  obtain ⟨before, after, hcalls, herase, _⟩ := exists_split hf
  cases h
  exact ⟨before, f, after, result, hcalls, hvalue, rfl, by rw [herase]⟩

/-- A result is seen only of a call that leaves. -/
theorem step_left {event : Event} {call : Call} {result : Except Fault Reply}
    (h : s.step client event = some (.left call result, s')) :
    ∃ before f after, s.calls = before ++ f :: after ∧ f.call = call ∧
      f.dialogue.value? = some result ∧
      s' = { s with
        coordinator := s.coordinator.leave call f.previous result.isOk,
        calls := before ++ after } := by
  cases event with
  | start =>
    obtain ⟨_, ⟨f, he, _⟩ | ⟨u, he, _⟩⟩ := step_start h
    · cases he
    · cases he
  | enter =>
    obtain ⟨f, he, _⟩ | ⟨u, he, _⟩ := step_enter h
    · cases he
    · cases he
  | send =>
    obtain ⟨_, _, _, _, _, _, _, he, _⟩ := step_send h
    cases he
  | answer =>
    obtain ⟨_, _, _, _, _, _, _, he, _⟩ := step_answer h
    cases he
  | leave =>
    obtain ⟨before, f, after, result, hcalls, hvalue, he, rfl⟩ := step_leave h
    cases he
    exact ⟨before, f, after, hcalls, rfl, hvalue, rfl⟩

end Traffic

/-! ### The invariant -/

/-- A call under way is about the stored upload, and it has come so far in its operation. -/
structure CallUnderWay.Coherent (client : Client) (c : Coordinator) (f : CallUnderWay) :
    Prop where
  upload : c.upload = some f.upload
  previous : f.previous.isOpen = true
  asks : f.dialogue.rest.Asks (Http.Request.Carries "uploadId" f.upload.uploadId)
  history : ∃ asked answers, f.dialogue.History (f.call.operation client f.upload).run asked answers

namespace Traffic

/-- The calls under way that end the upload. -/
def closingCalls (s : Traffic) : List Call := (s.calls.map CallUnderWay.call).filter Call.closes

/-- Either no call that ends the upload is under way, and the stage is none of theirs, or it
is one call and the stage is its own. -/
structure Coherent (client : Client) (s : Traffic) : Prop where
  upload : s.coordinator.upload = none ↔ s.coordinator.stage = .notStarted
  closing : (s.closingCalls = [] ∧ s.coordinator.stage.isClosing = false) ∨
    ∃ call, s.closingCalls = [call] ∧ s.coordinator.stage = call.stage
  calls : ∀ f ∈ s.calls, f.Coherent client s.coordinator
  sent : ∀ q ∈ s.sent, ∃ u, s.coordinator.upload = some u ∧ q.Carries "uploadId" u.uploadId

variable {client : Client} {c : Coordinator} {s s' : Traffic} {effect : Effect} {event : Event}

theorem closingCalls_eq {before after : List CallUnderWay} {f : CallUnderWay}
    (h : s.calls = before ++ f :: after) :
    s.closingCalls = (before.map CallUnderWay.call).filter Call.closes ++
      (if f.call.closes then [f.call] else []) ++
        (after.map CallUnderWay.call).filter Call.closes := by
  unfold closingCalls
  rw [h, List.map_append, List.map_cons, List.filter_append, List.filter_cons, List.append_assoc]
  split
  · rfl
  · rfl

/-- At an open stage no call that ends the upload is under way. -/
theorem Coherent.closingCalls_eq_nil (h : s.Coherent client)
    (hopen : s.coordinator.stage.isOpen = true) : s.closingCalls = [] := by
  rcases h.closing with ⟨hnil, _⟩ | ⟨call, hone, hstage⟩
  · exact hnil
  · have hcloses : call ∈ s.closingCalls := by simp [hone]
    have hcall : call.closes = true := (List.mem_filter.1 hcloses).2
    rw [hstage] at hopen
    cases call with
    | uploadPart => cases hcall
    | copyPart => cases hcall
    | complete => cases hopen
    | abort => cases hopen

theorem coherent_initial (h : c.upload = none ↔ c.stage = .notStarted)
    (hclosing : c.stage.isClosing = false) : Coherent client { coordinator := c } :=
  { upload := h
    closing := .inl ⟨rfl, hclosing⟩
    calls := fun _ hf => nomatch hf
    sent := fun _ hq => nomatch hq }

theorem Coherent.start {props : ObjectProperties}
    {answers : List (Except Fault Http.Response)} (h : s.Coherent client)
    (hstep : s.step client (.start props answers) = some (effect, s')) : s'.Coherent client := by
  obtain ⟨hcalls, ⟨f, _, rfl⟩ | ⟨u, _, hstage, rfl⟩⟩ := step_start hstep
  · exact h
  · refine ⟨by simp [leaveStart], .inl ⟨?_, rfl⟩, ?_, ?_⟩
    · simp [closingCalls, hcalls]
    · intro f hf
      simp [hcalls] at hf
    · intro q hq
      obtain ⟨u, hu, _⟩ := h.sent q hq
      rw [h.upload.2 hstage] at hu
      cases hu

theorem Coherent.enter {call : Call} (h : s.Coherent client)
    (hstep : s.step client (.enter call) = some (effect, s')) : s'.Coherent client := by
  obtain ⟨f, _, rfl⟩ | ⟨u, _, hu, hopen, rfl⟩ := step_enter hstep
  · exact h
  · have hclosing := h.closingCalls_eq_nil hopen
    refine ⟨?_, ?_, ?_, h.sent⟩
    · simp only [hu]
      cases call <;> simp [Call.stage]
    · unfold closingCalls at hclosing
      simp only [closingCalls, List.map_append, List.filter_append, hclosing]
      cases call with
      | uploadPart => exact .inl ⟨rfl, rfl⟩
      | copyPart => exact .inl ⟨rfl, rfl⟩
      | complete parts => exact .inr ⟨.complete parts, rfl, rfl⟩
      | abort => exact .inr ⟨.abort, rfl, rfl⟩
    · intro f hf
      rcases List.mem_append.1 hf with hold | hnew
      · have hcall := h.calls f hold
        exact ⟨hcall.upload, hcall.previous, hcall.asks, hcall.history⟩
      · obtain rfl := List.mem_singleton.1 hnew
        exact ⟨hu, hopen, call.sends_operation client u, [], [], .start⟩

/-- A call that goes on with its dialogue changes neither the coordinator nor who is under
way. -/
theorem Coherent.goOn {before after : List CallUnderWay} {f : CallUnderWay}
    {dialogue : Dialogue.Running Http.Request (Except Fault Http.Response) (Except Fault Reply)}
    {sent : List Http.Request} (h : s.Coherent client) (hcalls : s.calls = before ++ f :: after)
    (hcall : ({ f with dialogue } : CallUnderWay).Coherent client s.coordinator)
    (hsent : ∀ q ∈ sent, ∃ u, s.coordinator.upload = some u ∧ q.Carries "uploadId" u.uploadId) :
    ({ s with calls := before ++ { f with dialogue } :: after, sent := sent } :
      Traffic).Coherent client := by
  refine ⟨h.upload, ?_, ?_, hsent⟩
  · have hclosing := h.closing
    rw [closingCalls_eq hcalls] at hclosing
    rw [closingCalls_eq rfl]
    exact hclosing
  · intro g hg
    rcases List.mem_append.1 hg with hbefore | htail
    · exact h.calls g (by simp [hcalls, hbefore])
    · rcases List.mem_cons.1 htail with rfl | hafter
      · exact hcall
      · exact h.calls g (by simp [hcalls, hafter])

theorem Coherent.send {i : Nat} (h : s.Coherent client)
    (hstep : s.step client (.send i) = some (effect, s')) : s'.Coherent client := by
  obtain ⟨before, f, after, request, next, hcalls, hdialogue, _, rfl⟩ := step_send hstep
  have hf := h.calls f (by simp [hcalls])
  have hasks := hf.asks
  rw [hdialogue] at hasks
  cases hasks with
  | ask hquestion hnext =>
    refine h.goOn hcalls ⟨hf.upload, hf.previous, .ask hquestion hnext, ?_⟩ ?_
    · obtain ⟨asked, answers, hhistory⟩ := hf.history
      rw [hdialogue] at hhistory
      exact ⟨_, _, hhistory.send rfl⟩
    · intro q hq
      rcases List.mem_append.1 hq with hold | hnew
      · exact h.sent q hold
      · obtain rfl := List.mem_singleton.1 hnew
        exact ⟨f.upload, hf.upload, hquestion⟩

theorem Coherent.answer {i : Nat} {r : Except Fault Http.Response} (h : s.Coherent client)
    (hstep : s.step client (.answer i r) = some (effect, s')) : s'.Coherent client := by
  obtain ⟨before, f, after, request, next, hcalls, hdialogue, _, rfl⟩ := step_answer hstep
  have hf := h.calls f (by simp [hcalls])
  have hasks := hf.asks
  rw [hdialogue] at hasks
  cases hasks with
  | ask hquestion hnext =>
    obtain ⟨asked, answers, hhistory⟩ := hf.history
    rw [hdialogue] at hhistory
    exact h.goOn hcalls ⟨hf.upload, hf.previous, hnext r, _, _, hhistory.answer rfl⟩ h.sent

/-- A call that may end the upload finds its own stage when it leaves. -/
theorem Coherent.stage_of_closes (h : s.Coherent client) {before after : List CallUnderWay}
    {f : CallUnderWay} (hcalls : s.calls = before ++ f :: after) (hcloses : f.call.closes = true) :
    s.coordinator.stage = f.call.stage ∧
      ({ s with calls := before ++ after } : Traffic).closingCalls = [] := by
  have hsplit := closingCalls_eq hcalls
  rw [if_pos hcloses] at hsplit
  rcases h.closing with ⟨hnil, _⟩ | ⟨call, hone, hstage⟩
  · rw [hsplit] at hnil
    simp at hnil
  · rw [hsplit, List.append_assoc, List.append_eq_singleton_iff] at hone
    rcases hone with ⟨hbefore, hlast⟩ | ⟨_, hlast⟩
    · obtain ⟨rfl, hafter⟩ := List.cons_eq_cons.1 hlast
      refine ⟨hstage, ?_⟩
      rw [closingCalls, List.map_append, List.filter_append, hbefore]
      exact hafter
    · cases hlast

theorem Coherent.leave {i : Nat} (h : s.Coherent client)
    (hstep : s.step client (.leave i) = some (effect, s')) : s'.Coherent client := by
  obtain ⟨before, f, after, result, hcalls, _, _, rfl⟩ := step_leave hstep
  have hf := h.calls f (by simp [hcalls])
  have hrest : ∀ g ∈ before ++ after, g.Coherent client s.coordinator := by
    intro g hg
    refine h.calls g ?_
    rcases List.mem_append.1 hg with hbefore | hafter
    · simp [hcalls, hbefore]
    · simp [hcalls, hafter]
  rcases hcloses : f.call.closes with _ | _
  · rw [leave_of_not_closes hcloses]
    have hclosing := h.closing
    rw [closingCalls_eq hcalls, if_neg (by simp [hcloses]), List.append_nil] at hclosing
    refine ⟨h.upload, ?_, hrest, h.sent⟩
    rw [closingCalls, List.map_append, List.filter_append]
    exact hclosing
  · have hnil := (h.stage_of_closes hcalls hcloses).2
    have hsettled : (s.coordinator.leave f.call f.previous result.isOk).stage.isClosing = false ∧
        (s.coordinator.leave f.call f.previous result.isOk).stage ≠ .notStarted := by
      rcases stage_leave_of_closes hcloses hf.previous s.coordinator result.isOk with
        ⟨_, hfinal⟩ | ⟨_, hopen⟩
      · exact settled_of_final? hfinal
      · exact settled_of_isOpen hopen
    refine ⟨?_, .inl ⟨hnil, hsettled.1⟩, ?_, ?_⟩
    · rw [upload_leave, hf.upload]
      constructor
      · intro hu
        cases hu
      · intro hs
        exact absurd hs hsettled.2
    · intro g hg
      have hg := hrest g hg
      exact ⟨by rw [upload_leave]; exact hg.upload, hg.previous, hg.asks, hg.history⟩
    · intro q hq
      rw [upload_leave]
      exact h.sent q hq

theorem Coherent.step (h : s.Coherent client) (hstep : s.step client event = some (effect, s')) :
    s'.Coherent client := by
  cases event with
  | start => exact h.start hstep
  | enter => exact h.enter hstep
  | send => exact h.send hstep
  | answer => exact h.answer hstep
  | leave => exact h.leave hstep

/-- **Each run keeps the invariant.** -/
theorem Coherent.run {events : List Event} (h : s.Coherent client)
    (hrun : s.run client events = some s') : s'.Coherent client := by
  induction events generalizing s with
  | nil =>
    cases hrun
    exact h
  | cons event events ih =>
    rw [Traffic.run, Option.bind_eq_bind, Option.bind_eq_some_iff] at hrun
    obtain ⟨⟨effect, next⟩, hstep, hrest⟩ := hrun
    exact ih (h.step hstep) hrest

/-! ### What users of a coordinator rely on -/

/-- The upload comes to an end with the call that succeeds at it, and it stays there. -/
theorem Coherent.final_iff (h : s.Coherent client)
    (hstep : s.step client event = some (effect, s')) {t : Stage} (ht : t.isFinal = true) :
    s'.coordinator.stage = t ↔
      s.coordinator.stage = t ∨
        ∃ call reply, effect = .left call (.ok reply) ∧ call.final? = some t := by
  obtain ⟨hnotStarted, hstarted, hopen, hcall⟩ := ne_of_isFinal ht
  have hne : ∀ t' : Stage, t'.isOpen = true → t' ≠ t := by
    rintro t' hs rfl
    rw [hs] at hopen
    cases hopen
  cases event with
  | start =>
    obtain ⟨_, ⟨f, rfl, rfl⟩ | ⟨u, rfl, hstage, rfl⟩⟩ := step_start hstep
    · simp
    · simp [leaveStart, hstage, hnotStarted.symm, hstarted.symm]
  | enter =>
    obtain ⟨f, rfl, rfl⟩ | ⟨u, rfl, hu, hs, rfl⟩ := step_enter hstep
    · simp
    · simp [hcall, hne _ hs]
  | send =>
    obtain ⟨_, _, _, _, _, _, _, rfl, rfl⟩ := step_send hstep
    simp
  | answer =>
    obtain ⟨_, _, _, _, _, _, _, rfl, rfl⟩ := step_answer hstep
    simp
  | leave =>
    obtain ⟨before, f, after, result, hcalls, _, rfl, rfl⟩ := step_leave hstep
    have hf := h.calls f (by simp [hcalls])
    rcases hcloses : f.call.closes with _ | _
    · have hfinal : f.call.final? = none := by
        cases hc : f.call <;> simp_all [Call.closes, Call.final?]
      rw [leave_of_not_closes hcloses]
      simp [hfinal]
    · rw [(h.stage_of_closes hcalls hcloses).1]
      rcases stage_leave_of_closes hcloses hf.previous s.coordinator result.isOk with
        ⟨hok, hfinal⟩ | ⟨herror, hleft⟩
      · rcases result with fault | reply
        · cases hok
        · simp [hcall, hfinal]
      · rcases result with fault | reply
        · simp [hcall, hne _ hleft]
        · cases herror

theorem Coherent.length_closingCalls_le (h : s.Coherent client) : s.closingCalls.length ≤ 1 := by
  rcases h.closing with ⟨hnil, _⟩ | ⟨call, hone, _⟩
  · simp [hnil]
  · simp [hone]

/-- The stage is that of a call which may end the upload exactly while such a call is under
way. -/
theorem Coherent.closing_iff (h : s.Coherent client) {t : Stage} (ht : t.isClosing = true) :
    s.coordinator.stage = t ↔ ∃ f ∈ s.calls, f.call.stage = t := by
  constructor
  · intro hstage
    rcases h.closing with ⟨_, hnone⟩ | ⟨call, hone, hcall⟩
    · rw [hstage, ht] at hnone
      cases hnone
    · have hmem : call ∈ s.closingCalls := by simp [hone]
      obtain ⟨f, hf, rfl⟩ := List.mem_map.1 (List.mem_filter.1 hmem).1
      exact ⟨f, hf, by rw [← hcall, hstage]⟩
  · rintro ⟨f, hf, hstage⟩
    have hcloses : f.call.closes = true := by
      rw [← Call.isClosing_stage, hstage, ht]
    obtain ⟨before, after, hcalls⟩ := List.append_of_mem hf
    rw [(h.stage_of_closes hcalls hcloses).1, hstage]

/-- The upload is stored once. -/
theorem Coherent.upload_kept (h : s.Coherent client)
    (hstep : s.step client event = some (effect, s')) {u : Upload}
    (hu : s.coordinator.upload = some u) : s'.coordinator.upload = some u := by
  cases event with
  | start =>
    obtain ⟨_, ⟨f, _, rfl⟩ | ⟨u', _, hstage, rfl⟩⟩ := step_start hstep
    · exact hu
    · rw [h.upload.2 hstage] at hu
      cases hu
  | enter =>
    obtain ⟨f, _, rfl⟩ | ⟨u', _, _, _, rfl⟩ := step_enter hstep
    · exact hu
    · exact hu
  | send =>
    obtain ⟨_, _, _, _, _, _, _, _, rfl⟩ := step_send hstep
    exact hu
  | answer =>
    obtain ⟨_, _, _, _, _, _, _, _, rfl⟩ := step_answer hstep
    exact hu
  | leave =>
    obtain ⟨_, _, _, _, _, _, _, rfl⟩ := step_leave hstep
    simpa using hu

/-- A call leaves with the result of its operation on the stored upload. -/
theorem Coherent.result_of_left (h : s.Coherent client) {call : Call}
    {result : Except Fault Reply} (hstep : s.step client event = some (.left call result, s')) :
    ∃ u answers, s.coordinator.upload = some u ∧
      ((call.operation client u).run.replay answers).2.2 = some result := by
  obtain ⟨before, f, after, hcalls, rfl, hvalue, _⟩ := step_left hstep
  have hf := h.calls f (by simp [hcalls])
  obtain ⟨asked, answers, hhistory⟩ := hf.history
  exact ⟨f.upload, answers, hf.upload, hhistory.value hvalue⟩

/-- A call that might have ended the upload and failed leaves it open. -/
theorem Coherent.open_of_failed (h : s.Coherent client) {call : Call} {fault : Fault}
    (hcloses : call.closes = true)
    (hstep : s.step client event = some (.left call (.error fault), s')) :
    s'.coordinator.stage.isOpen = true := by
  obtain ⟨before, f, after, hcalls, _, _, rfl⟩ := step_left hstep
  have hf := h.calls f (by simp [hcalls])
  rcases stage_leave_of_closes hcloses hf.previous s.coordinator false with ⟨hok, _⟩ | ⟨_, hopen⟩
  · cases hok
  · exact hopen

theorem step_enter_of_not_open (hstage : s.coordinator.stage.isOpen = false) (call : Call) :
    s.step client (.enter call) = some (.refused (s.coordinator.misplaced call.name), s) := by
  simp only [step, enter_of_not_open hstage]

theorem Coherent.step_enter_of_open (h : s.Coherent client)
    (hopen : s.coordinator.stage.isOpen = true) (call : Call) :
    ∃ s', s.step client (.enter call) = some (.entered, s') := by
  rcases hu : s.coordinator.upload with _ | u
  · rw [h.upload.1 hu] at hopen
    cases hopen
  · exact ⟨_, by simp only [Traffic.step, enter_of_open hu hopen]; rfl⟩

theorem step_start_of_started (hcalls : s.calls = [])
    (hstage : s.coordinator.stage ≠ .notStarted) (props : ObjectProperties)
    (answers : List (Except Fault Http.Response)) :
    s.step client (.start props answers) =
      some (.started (.error (s.coordinator.misplaced "start")), s) := by
  have hstart : s.coordinator.enterStart = .error (s.coordinator.misplaced "start") := by
    rw [enterStart, if_neg hstage]
  simp only [step, hcalls, hstart]
  rfl

theorem eq_of_start_failed {props : ObjectProperties}
    {answers : List (Except Fault Http.Response)} {fault : Fault}
    (hstep : s.step client (.start props answers) = some (.started (.error fault), s')) :
    s' = s := by
  obtain ⟨_, ⟨f, _, rfl⟩ | ⟨u, he, _⟩⟩ := step_start hstep
  · rfl
  · cases he

/-- What users of a coordinator rely on at each moment: whatever step comes next, from `s` to
`s'` with the effect that is seen. -/
structure Sound (client : Client) (s : Traffic) : Prop where
  /-- At most one call that may end the upload is under way, -/
  one_closing : s.closingCalls.length ≤ 1
  /-- and the stage says which. -/
  completing_iff : s.coordinator.stage = .completing ↔
    ∃ f ∈ s.calls, ∃ parts, f.call = .complete parts
  aborting_iff : s.coordinator.stage = .aborting ↔ ∃ f ∈ s.calls, f.call = .abort
  /-- The upload is completed by a completion that succeeded, and for good, -/
  completed_iff : ∀ {event effect s'}, s.step client event = some (effect, s') →
    (s'.coordinator.stage = .completed ↔
      s.coordinator.stage = .completed ∨
        ∃ parts reply, effect = .left (.complete parts) (.ok reply))
  /-- and so it is aborted. -/
  aborted_iff : ∀ {event effect s'}, s.step client event = some (effect, s') →
    (s'.coordinator.stage = .aborted ↔
      s.coordinator.stage = .aborted ∨ ∃ reply, effect = .left .abort (.ok reply))
  /-- The result of a call is that of its operation on the stored upload. -/
  result : ∀ {event call result s'}, s.step client event = some (.left call result, s') →
    ∃ u answers, s.coordinator.upload = some u ∧
      ((call.operation client u).run.replay answers).2.2 = some result
  /-- A completion or an abortion that failed leaves the upload open. -/
  reopened : ∀ {event call fault s'}, call.closes = true →
    s.step client event = some (.left call (.error fault), s') →
    s'.coordinator.stage.isOpen = true
  /-- A call enters at an open stage. -/
  entered : s.coordinator.stage.isOpen = true → ∀ call,
    ∃ s', s.step client (.enter call) = some (.entered, s')
  /-- At any other it is refused, and nothing is sent or changed. -/
  refused : s.coordinator.stage.isOpen = false → ∀ call,
    s.step client (.enter call) = some (.refused (.invalidState
      ((s.coordinator.upload.map Upload.uploadId).getD "-") s.coordinator.stage.name call.name), s)
  /-- An upload is stored from its start on, -/
  upload_none_iff : s.coordinator.upload = none ↔ s.coordinator.stage = .notStarted
  /-- it is never another, -/
  upload_kept : ∀ {event effect s' u}, s.step client event = some (effect, s') →
    s.coordinator.upload = some u → s'.coordinator.upload = some u
  /-- and each request that a call has sent names it. -/
  sent : ∀ q ∈ s.sent, ∃ u, s.coordinator.upload = some u ∧ q.Carries "uploadId" u.uploadId
  /-- A start that failed changes nothing, -/
  start_failed : ∀ {props answers fault s'},
    s.step client (.start props answers) = some (.started (.error fault), s') → s' = s
  /-- and an upload is not started twice. -/
  start_refused : s.coordinator.stage ≠ .notStarted → s.calls = [] → ∀ props answers,
    s.step client (.start props answers) = some (.started (.error (.invalidState
      ((s.coordinator.upload.map Upload.uploadId).getD "-") s.coordinator.stage.name "start")), s)

end Traffic

theorem Traffic.Coherent.sound {client : Client} {s : Traffic} (h : s.Coherent client) :
    s.Sound client where
  one_closing := h.length_closingCalls_le
  completing_iff := by
    simpa only [Call.stage_eq_completing] using h.closing_iff (t := .completing) rfl
  aborting_iff := by simpa only [Call.stage_eq_aborting] using h.closing_iff (t := .aborting) rfl
  completed_iff := by
    intro event effect s' hstep
    rw [h.final_iff hstep rfl]
    simp only [Call.final?_eq_completed]
    constructor
    · rintro (hs | ⟨call, reply, he, parts, rfl⟩)
      · exact .inl hs
      · exact .inr ⟨parts, reply, he⟩
    · rintro (hs | ⟨parts, reply, he⟩)
      · exact .inl hs
      · exact .inr ⟨.complete parts, reply, he, parts, rfl⟩
  aborted_iff := by
    intro event effect s' hstep
    rw [h.final_iff hstep rfl]
    simp only [Call.final?_eq_aborted]
    constructor
    · rintro (hs | ⟨call, reply, he, rfl⟩)
      · exact .inl hs
      · exact .inr ⟨reply, he⟩
    · rintro (hs | ⟨reply, he⟩)
      · exact .inl hs
      · exact .inr ⟨.abort, reply, he, rfl⟩
  result := h.result_of_left
  reopened := h.open_of_failed
  entered := h.step_enter_of_open
  refused := Traffic.step_enter_of_not_open
  upload_none_iff := h.upload
  upload_kept := fun hstep hu => h.upload_kept hstep hu
  sent := h.sent
  start_failed := Traffic.eq_of_start_failed
  start_refused := fun hstage hcalls => Traffic.step_start_of_started hcalls hstage

/-- **Every interleaving is sound:** whatever calls a new or resumed coordinator is given, in
whatever order they enter, send and leave, and whatever is answered. -/
theorem Traffic.sound_of_interleaving {client : Client} {c : Coordinator} {events : List Event}
    {s : Traffic} (hc : (∃ bucket key, c = { bucket, key }) ∨ ∃ u, c = .resume u)
    (hrun : Traffic.run client { coordinator := c } events = some s) : s.Sound client := by
  have hinitial : Traffic.Coherent client { coordinator := c } := by
    rcases hc with ⟨bucket, key, rfl⟩ | ⟨u, rfl⟩
    · exact Traffic.coherent_initial (by simp) rfl
    · exact Traffic.coherent_initial (by simp [resume]) rfl
  exact (hinitial.run hrun).sound

/-- An abortion overtakes a part: the part is still under way when the upload is aborted. -/
theorem Traffic.sound_of_overtaken_part :
    ∃ s, Traffic.run (Client.ofConfig {} ⟨2024, 3, 5, 7, 8, 9, 2⟩)
        { coordinator := .resume { uploadId := "VXBsb2FkIElE" } }
        [.enter (.uploadPart 1 { body := .bytes [] }), .enter .abort, .send 1,
          .answer 1 (.ok { status := 204, headers := [], body := { pieces := [] } }),
          .leave 1] = some s ∧
      (s.coordinator.stage, s.calls.length) = (.aborted, 1) ∧
      s.Sound (Client.ofConfig {} ⟨2024, 3, 5, 7, 8, 9, 2⟩) := by
  obtain ⟨s, hrun, hs⟩ := Option.map_eq_some_iff.1 <| show
    (Traffic.run (Client.ofConfig {} ⟨2024, 3, 5, 7, 8, 9, 2⟩)
        { coordinator := .resume { uploadId := "VXBsb2FkIElE" } }
        [.enter (.uploadPart 1 { body := .bytes [] }), .enter .abort, .send 1,
          .answer 1 (.ok { status := 204, headers := [], body := { pieces := [] } }),
          .leave 1]).map (fun s => (s.coordinator.stage, s.calls.length)) =
      some (.aborted, 1) from rfl
  exact ⟨s, hrun, hs, Traffic.sound_of_interleaving (.inr ⟨_, rfl⟩) hrun⟩

end Coordinator

end ObjectStore
