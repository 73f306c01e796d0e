import ObjectStore.Client.Buckets
import ObjectStore.Proofs.Dialogue
import ObjectStore.Upload.Operations
/-!
# Refused before anything is sent

An operation that is asked for the impossible says so before it sends anything.
`Operation.Guarded n` is that: the operation ends at once with its arguments refused, or it
sends `n` requests at most and comes to anything but a refusal, whatever the server answers.

**Every operation of one request is guarded** (`Client.Single.guarded`).  Checks stand in front of
the request and never behind it, and nothing that is made of an answer is a refusal
(`Client.within_dispatch`).
-/

namespace ObjectStore

/-- What an exchange can come to: a response, or a fault of the transport. -/
inductive Exchanged : Except Fault Http.Response → Prop where
  | answered (r : Http.Response) : Exchanged (.ok r)
  | failed (cause : InputFault) : Exchanged (.error (.transport cause))

/-- The result is anything but that the arguments were refused. -/
def Unrefused {α : Type} (result : Except Fault α) : Prop :=
  ∀ m, result ≠ .error (.invalidArgument m)

theorem unrefused_ok {α : Type} (a : α) : Unrefused (.ok a) := fun _ h => nomatch h

theorem unrefused_error_congr {α β : Type} {f : Fault}
    (h : Unrefused (.error f : Except Fault α)) : Unrefused (.error f : Except Fault β) := by
  rintro m ⟨⟩
  exact h m rfl

theorem Unrefused.bind {α β : Type} {result : Except Fault α} {next : α → Except Fault β}
    (h : Unrefused result) (hnext : ∀ a, Unrefused (next a)) : Unrefused (result.bind next) := by
  cases result with
  | error f => exact unrefused_error_congr h
  | ok a => exact hnext a

theorem Exchanged.unrefused {answer : Except Fault Http.Response} (h : Exchanged answer) :
    Unrefused answer := by
  cases h with
  | answered r => exact unrefused_ok r
  | failed cause => exact fun _ h => nomatch h

namespace Operation

variable {α β : Type} {n : Nat}

/-- Sends `n` requests at most and comes to anything but a refusal, whatever the exchanges come
to. -/
def Within (n : Nat) (op : Operation α) : Prop := op.run.Within Exchanged Unrefused n

theorem within_lift {e : Except Fault α} (h : Unrefused e) : Within n (Operation.lift e) := .done h

theorem within_pure (a : α) : Within n (pure a : Operation α) := within_lift (unrefused_ok a)

theorem within_throw {f : Fault} (h : Unrefused (.error f : Except Fault α)) :
    Within n (throw f : Operation α) :=
  within_lift h

theorem within_send (r : Http.Request) : Within 1 (Operation.send r) :=
  .ask fun _ hanswer => .done hanswer.unrefused

/-- What follows without sending anything. -/
theorem Within.bind {op : Operation α} {next : α → Operation β} (hop : Within n op)
    (hnext : ∀ a, Within 0 (next a)) : Within n (op >>= next) := by
  refine Dialogue.Within.bind (n := 0) hop fun result hresult => ?_
  cases result with
  | ok a => exact hnext a
  | error f => exact within_lift (unrefused_error_congr hresult)

/-- Ends at once with the arguments refused, or is within `n` requests. -/
def Guarded (n : Nat) (op : Operation α) : Prop :=
  (∃ m, op.run = .done (.error (.invalidArgument m))) ∨ Within n op

theorem Within.guarded {op : Operation α} (h : Within n op) : Guarded n op := .inr h

/-- A check in front of a guarded operation. -/
theorem guarded_lift_bind {next : α → Operation β} (e : Except Fault α)
    (hnext : ∀ a, Guarded n (next a)) : Guarded n (Operation.lift e >>= next) := by
  rcases e with f | a
  · by_cases hf : ∃ m, f = .invalidArgument m
    · obtain ⟨m, rfl⟩ := hf
      exact .inl ⟨m, rfl⟩
    · refine .inr (within_lift fun m hm => hf ⟨m, ?_⟩)
      cases hm
      rfl
  · exact hnext a

/-- **What a guarded operation does.** -/
theorem Guarded.replay {op : Operation α} (h : Guarded n op)
    {answers : List (Except Fault Http.Response)}
    (hanswers : ∀ answer ∈ answers, Exchanged answer) :
    (op.run.replay answers).1.length ≤ n ∧ ∀ m,
      (op.run.replay answers).2.2 = some (.error (.invalidArgument m)) →
        (op.run.replay answers).1 = [] := by
  rcases h with ⟨m, hrun⟩ | hwithin
  · rw [hrun]
    exact ⟨Nat.zero_le _, fun _ _ => rfl⟩
  · obtain ⟨hlength, hvalue⟩ := Dialogue.Within.replay hwithin hanswers
    exact ⟨hlength, fun m hm => absurd rfl (hvalue _ hm m)⟩

end Operation

namespace Client

open Operation

variable {α : Type}

/-! ### What is made of an answer -/

theorem unrefused_accept (d : Descriptor) (r : Http.Response) : Unrefused (accept d r) := by
  unfold accept failure
  split
  · exact unrefused_ok r
  · split
    · exact fun _ h => nomatch h
    · split
      · exact fun _ h => nomatch h
      · exact fun _ h => nomatch h

theorem unrefused_readBody (shape : Shape) (context : Context)
    (read : Bytes → Except Xml.Fault α) (r : Http.Response) :
    Unrefused (readBody shape context read r) := by
  unfold readBody
  split
  · exact fun _ h => nomatch h
  · next body _ =>
    rcases read body with f | a
    · exact fun _ h => nomatch h
    · exact unrefused_ok a

theorem unrefused_succeed (context : Context) (outcome : Outcome α) :
    Unrefused (succeed context outcome) := by
  cases outcome with
  | success value => exact unrefused_ok value
  | failed f => exact fun _ h => nomatch h

theorem within_dispatch (c : Client) (d : Descriptor) : Within 1 (c.dispatch d) :=
  (within_send _).bind fun r => within_lift (unrefused_accept d r)

theorem within_dispatchAndDrain (c : Client) (d : Descriptor) :
    Within 1 (c.dispatchAndDrain d) := by
  refine (within_dispatch c d).bind fun r => ?_
  rcases r.body.collect with f | _
  · exact within_throw fun _ h => nomatch h
  · exact within_pure r

theorem within_fetch (c : Client) (d : Descriptor) (shape : Shape)
    (read : Bytes → Except Xml.Fault α) : Within 1 (c.fetch d shape read) :=
  (within_dispatch c d).bind fun r => within_lift (unrefused_readBody shape d.context read r)

/-! ### Settings -/

theorem within_putSetting (c : Client) (bucket flag document : String) (mfa : Option MfaToken) :
    Within 1 (c.putSetting bucket flag document mfa) :=
  (within_dispatchAndDrain c _).bind fun _ => within_pure ()

theorem within_deleteSetting (c : Client) (bucket flag : String) :
    Within 1 (c.deleteSetting bucket flag) :=
  (within_dispatchAndDrain c _).bind fun _ => within_pure ()

theorem within_getLifecycle (c : Client) (bucket : String) : Within 1 (c.getLifecycle bucket) := by
  refine (within_dispatch c _).bind fun r => ?_
  split
  · exact within_pure none
  · exact (within_lift (unrefused_readBody _ _ _ r)).bind fun config => within_pure (some config)

/-! ### Objects -/

theorem within_putObject (c : Client) (bucket key : String) (data : Bytes)
    (props : ObjectProperties) : Within 1 (c.putObject bucket key data props) := by
  refine (within_dispatchAndDrain c _).bind fun r => ?_
  dsimp only
  split
  · split
    · exact within_throw fun _ h => nomatch h
    · exact within_pure _
  · exact within_pure _

theorem within_getObject (c : Client) (bucket key : String) (versionId : Option String) :
    Within 1 (c.getObject bucket key versionId) := by
  refine (within_dispatch c _).bind fun r => ?_
  rcases r.body.collect with f | body
  · exact within_throw fun _ h => nomatch h
  · exact within_pure _

theorem within_copyObject (c : Client) (source : ObjectName) (sourceBucket bucket key : String)
    (props : Option ObjectProperties) :
    Within 1 (c.copyObject source sourceBucket bucket key props) := by
  refine (within_dispatch c _).bind fun r => ?_
  refine (within_lift (unrefused_readBody _ _ _ r)).bind fun outcome => ?_
  exact (within_lift (unrefused_succeed _ outcome)).bind fun result => within_pure _

theorem guarded_deleteObjects (c : Client) (bucket : String) (objects : List ObjectName)
    (quiet : Bool) (mfa : Option MfaToken) :
    Guarded 1 (c.deleteObjects bucket objects quiet mfa) := by
  unfold deleteObjects
  split
  · exact (within_pure _).guarded
  · split
    · exact .inl ⟨_, rfl⟩
    · exact (within_fetch c _ _ _).guarded

/-! ### Uploads -/

theorem guarded_uploadPart (c : Client) (u : Upload) (number : UInt32) (source : PartSource) :
    Guarded 1 (c.uploadPart u number source) := by
  refine guarded_lift_bind _ fun _ => guarded_lift_bind _ fun (body, length) => ?_
  refine Within.guarded ((within_dispatchAndDrain c _).bind fun r => within_lift ?_)
  unfold partOfResponse
  split
  · exact unrefused_ok _
  · exact fun _ h => nomatch h

theorem guarded_copyPart (c : Client) (u : Upload) (number : UInt32) (s : PartCopySource) :
    Guarded 1 (c.copyPart u number s) := by
  refine guarded_lift_bind _ fun _ => guarded_lift_bind _ fun range => Within.guarded ?_
  refine (within_fetch c _ _ _).bind fun outcome => ?_
  exact (within_lift (unrefused_succeed _ outcome)).bind fun result => within_pure _

theorem guarded_completeUpload (c : Client) (u : Upload) (parts : List Part) :
    Guarded 1 (c.completeUpload u parts) := by
  refine guarded_lift_bind _ fun ordered => Within.guarded ?_
  refine (within_dispatch c _).bind fun r => ?_
  refine (within_lift (unrefused_readBody _ _ _ r)).bind fun outcome => ?_
  cases outcome with
  | success doc => exact within_pure _
  | failed f => exact within_throw fun _ h => nomatch h

/-! ### All of them -/

/-- The operations of a client that are neither listings nor the upload of a file. -/
inductive Single (c : Client) : {α : Type} → Operation α → Prop where
  | putObject (bucket key : String) (data : Bytes) (props : ObjectProperties) :
    c.Single (c.putObject bucket key data props)
  | getObject (bucket key : String) (versionId : Option String) :
    c.Single (c.getObject bucket key versionId)
  | copyObject (source : ObjectName) (sourceBucket bucket key : String)
      (props : Option ObjectProperties) :
    c.Single (c.copyObject source sourceBucket bucket key props)
  | deleteObject (bucket key : String) (versionId : Option String) (mfa : Option MfaToken) :
    c.Single (c.deleteObject bucket key versionId mfa)
  | deleteObjects (bucket : String) (objects : List ObjectName) (quiet : Bool)
      (mfa : Option MfaToken) : c.Single (c.deleteObjects bucket objects quiet mfa)
  | getVersioning (bucket : String) : c.Single (c.getVersioning bucket)
  | setVersioning (bucket : String) (enabled : Bool) (mfaDelete : Option Bool)
      (mfa : Option MfaToken) : c.Single (c.setVersioning bucket enabled mfaDelete mfa)
  | getPolicy (bucket : String) : c.Single (c.getPolicy bucket)
  | setPolicy (bucket policy : String) : c.Single (c.setPolicy bucket policy)
  | deletePolicy (bucket : String) : c.Single (c.deletePolicy bucket)
  | getLocation (bucket : String) : c.Single (c.getLocation bucket)
  | getRequesterPays (bucket : String) : c.Single (c.getRequesterPays bucket)
  | setRequesterPays (bucket : String) (on : Bool) : c.Single (c.setRequesterPays bucket on)
  | getLifecycle (bucket : String) : c.Single (c.getLifecycle bucket)
  | setLifecycle (bucket : String) (config : LifecycleConfig) :
    c.Single (c.setLifecycle bucket config)
  | deleteLifecycle (bucket : String) : c.Single (c.deleteLifecycle bucket)
  | getAcceleration (bucket : String) : c.Single (c.getAcceleration bucket)
  | setAcceleration (bucket : String) (on : Bool) : c.Single (c.setAcceleration bucket on)
  | getNotifications (bucket : String) : c.Single (c.getNotifications bucket)
  | setNotifications (bucket : String) (config : NotificationConfig) :
    c.Single (c.setNotifications bucket config)
  | startUpload (bucket key : String) (props : ObjectProperties) :
    c.Single (c.startUpload bucket key props)
  | uploadPart (u : Upload) (number : UInt32) (source : PartSource) :
    c.Single (c.uploadPart u number source)
  | copyPart (u : Upload) (number : UInt32) (s : PartCopySource) :
    c.Single (c.copyPart u number s)
  | completeUpload (u : Upload) (parts : List Part) : c.Single (c.completeUpload u parts)
  | abortUpload (u : Upload) : c.Single (c.abortUpload u)

/-- **An operation of one request sends it or refuses its arguments.** -/
theorem Single.guarded {c : Client} {op : Operation α} (h : c.Single op) : Guarded 1 op := by
  cases h with
  | putObject => exact (within_putObject c _ _ _ _).guarded
  | getObject => exact (within_getObject c _ _ _).guarded
  | copyObject => exact (within_copyObject c _ _ _ _ _).guarded
  | deleteObjects => exact guarded_deleteObjects c _ _ _ _
  | getLifecycle => exact (within_getLifecycle c _).guarded
  | uploadPart => exact guarded_uploadPart c _ _ _
  | copyPart => exact guarded_copyPart c _ _ _
  | completeUpload => exact guarded_completeUpload c _ _
  -- a setting is read by one request, and what was read is the result
  | getVersioning => exact (within_fetch c _ _ _).guarded
  | getPolicy => exact (within_fetch c _ _ _).guarded
  | getLocation => exact (within_fetch c _ _ _).guarded
  | getRequesterPays => exact (within_fetch c _ _ _).guarded
  | getAcceleration => exact (within_fetch c _ _ _).guarded
  | getNotifications => exact (within_fetch c _ _ _).guarded
  -- it is changed by one request, whose answer is only looked at for faults
  | setVersioning => exact (within_putSetting c _ _ _ _).guarded
  | setRequesterPays => exact (within_putSetting c _ _ _ _).guarded
  | setLifecycle => exact (within_putSetting c _ _ _ _).guarded
  | setAcceleration => exact (within_putSetting c _ _ _ _).guarded
  | setNotifications => exact (within_putSetting c _ _ _ _).guarded
  | deletePolicy => exact (within_deleteSetting c _ _).guarded
  | deleteLifecycle => exact (within_deleteSetting c _ _).guarded
  | setPolicy => exact ((within_dispatchAndDrain c _).bind fun _ => within_pure ()).guarded
  | deleteObject => exact ((within_dispatchAndDrain c _).bind fun _ => within_pure ()).guarded
  | abortUpload => exact ((within_dispatchAndDrain c _).bind fun _ => within_pure ()).guarded
  | startUpload => exact ((within_fetch c _ _ _).bind fun _ => within_pure _).guarded

end Client

end ObjectStore
