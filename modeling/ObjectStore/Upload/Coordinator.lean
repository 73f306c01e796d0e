import ObjectStore.Upload.Operations
/-!
# The stages of an upload

A coordinator keeps one upload from being used in the wrong order.  Each call enters, which
is allowed only at some stages, then sends its request, and then leaves; several calls may be
between entering and leaving at once.  Entering and leaving are single steps on the
coordinator, so every interleaving of calls is a sequence of such steps.
-/

namespace ObjectStore

inductive Stage where
  | notStarted
  | started
  | uploading
  | completing
  | completed
  | aborting
  | aborted
  deriving Repr, DecidableEq

def Stage.name : Stage → String
  | .notStarted => "not started"
  | .started => "started"
  | .uploading => "uploading"
  | .completing => "completing"
  | .completed => "completed"
  | .aborting => "aborting"
  | .aborted => "aborted"

/-- Whether parts can be given to the upload, and it can be completed or aborted. -/
def Stage.isOpen : Stage → Bool
  | .started => true
  | .uploading => true
  | _ => false

structure Coordinator where
  bucket : String
  key : String
  stage : Stage := .notStarted
  upload : Option Upload := none

namespace Coordinator

/-- Take over an upload that was started elsewhere. -/
def resume (u : Upload) : Coordinator :=
  { bucket := u.bucket, key := u.key, stage := .started, upload := some u }

/-- A call that does not fit the stage. -/
def misplaced (c : Coordinator) (operation : String) : Fault :=
  .invalidState ((c.upload.map Upload.uploadId).getD "-") c.stage.name operation

/-! ### Starting -/

def enterStart (c : Coordinator) : Except Fault Unit :=
  if c.stage = .notStarted then .ok () else .error (c.misplaced "start")

/-- The coordinator once the upload has been started. -/
def leaveStart (c : Coordinator) (u : Upload) : Coordinator :=
  { c with stage := .started, upload := some u }

/-! ### Calls on an open upload -/

inductive Call where
  | uploadPart (number : UInt32) (source : PartSource)
  | copyPart (number : UInt32) (source : PartCopySource)
  | complete (parts : List Part)
  | abort

inductive Reply where
  | part (part : Part)
  | completed (result : Completed)
  | aborted

def Call.name : Call → String
  | .uploadPart _ _ => "upload part"
  | .copyPart _ _ => "copy part"
  | .complete _ => "complete"
  | .abort => "abort"

/-- The stage at which the upload is while the call runs. -/
def Call.stage : Call → Stage
  | .uploadPart _ _ => .uploading
  | .copyPart _ _ => .uploading
  | .complete _ => .completing
  | .abort => .aborting

/-- Enter a call: the upload it is about, the stage left behind and the coordinator from now
on. -/
def enter (c : Coordinator) (call : Call) : Except Fault (Upload × Stage × Coordinator) :=
  match c.upload with
  | some u =>
    if c.stage.isOpen then .ok (u, c.stage, { c with stage := call.stage })
    else .error (c.misplaced call.name)
  | none => .error (c.misplaced call.name)

def Call.operation (client : Client) (u : Upload) : Call → Operation Reply
  | .uploadPart number source => Reply.part <$> client.uploadPart u number source
  | .copyPart number source => Reply.part <$> client.copyPart u number source
  | .complete parts => Reply.completed <$> client.completeUpload u parts
  | .abort => (fun _ => Reply.aborted) <$> client.abortUpload u

/-- Leave a call that left the stage `previous` behind and succeeded or not.  A completion
that failed leaves the upload open, and an abortion that failed leaves it as it was. -/
def leave (c : Coordinator) (call : Call) (previous : Stage) (succeeded : Bool) : Coordinator :=
  match call with
  | .uploadPart _ _ => c
  | .copyPart _ _ => c
  | .complete _ => { c with stage := if succeeded then .completed else .uploading }
  | .abort => { c with stage := if succeeded then .aborted else previous }

end Coordinator

end ObjectStore
