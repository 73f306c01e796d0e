import ObjectStore.Upload.Coordinator
/-!
# Uploading a file

A file is cut into parts of one size, the last one shorter.  An `UploadJob` is such an upload
under way: parts begin in order, at most so many at a time (`UploadJob.canBegin`), and finish in
any order (`UploadJob.finishPart`).  When all are done the upload is completed; when one fails no
more begin and the upload is aborted.  `uploadFile` runs the job one part after the other.
-/

namespace ObjectStore

/-- How a file is cut and how many parts are under way at once. -/
structure PartPlan where
  partSize : UInt64 := 5242880
  concurrency : UInt64 := 10
  deriving Repr, DecidableEq

namespace PartPlan

/-- The least size of a part that the service accepts, except for the last. -/
def minPartSize : UInt64 := 5242880

def withPartSize (p : PartPlan) (size : UInt64) : PartPlan :=
  { p with partSize := max size minPartSize }

def withConcurrency (p : PartPlan) (n : UInt64) : PartPlan := { p with concurrency := max n 1 }

end PartPlan

structure FileCut where
  fileSize : UInt64
  partSize : UInt64
  deriving Repr, DecidableEq

namespace FileCut

/-- The cut of a file; parts of no bytes are parts of one byte. -/
def ofPlan (fileSize : UInt64) (plan : PartPlan) : FileCut :=
  { fileSize, partSize := max plan.partSize 1 }

def count (c : FileCut) : UInt64 :=
  let full := c.fileSize / c.partSize
  max (if c.fileSize % c.partSize = 0 then full else full + 1) 1

def offset (c : FileCut) (index : UInt64) : UInt64 := index * c.partSize

def length (c : FileCut) (index : UInt64) : UInt64 :=
  min c.partSize (c.fileSize - c.offset index)

def number (index : UInt64) : UInt32 := (index + 1).toUInt32

/-- Refuse a cut with more parts than an upload can have. -/
def check (c : FileCut) : Except Fault Unit :=
  if Client.maxPartNumber < c.count.toNat then
    .error (.invalidArgument (.tooManyParts c.fileSize.toNat c.partSize.toNat c.count.toNat
      Client.maxPartNumber))
  else .ok ()

end FileCut

/-! ### Jobs -/

/-- An upload of a file under way. -/
structure UploadJob where
  coordinator : Coordinator
  cut : FileCut
  /-- How many parts may be under way at once. -/
  limit : UInt64
  /-- The index of the next part to begin. -/
  next : UInt64 := 0
  /-- The indices of the parts under way. -/
  underWay : List UInt64 := []
  /-- The parts that have finished, in the order in which they did. -/
  finished : List Part := []
  /-- The fault of the first part that failed. -/
  failure : Option Fault := none

namespace UploadJob

def start (u : Upload) (cut : FileCut) (plan : PartPlan) : UploadJob :=
  { coordinator := Coordinator.leaveStart { bucket := u.bucket, key := u.key } u, cut,
    limit := max plan.concurrency 1 }

/-- The operation of the part at an index: its range is opened when it begins. -/
def partOperation (client : Client) (file : LocalFile) (cut : FileCut) (u : Upload)
    (index : UInt64) : Operation Part := do
  let source ← Operation.lift
    ((PartSource.ofFile file (cut.offset index) (cut.length index)).mapError .input)
  client.uploadPart u (FileCut.number index) source

/-- Whether another part can begin: none does after a failure, or while as many as are allowed
are under way. -/
def canBegin (job : UploadJob) : Bool :=
  job.failure.isNone && job.next < job.cut.count && job.underWay.length < job.limit.toNat

/-- Begin the next part: the upload it belongs to and the job from now on. -/
def beginPart (job : UploadJob) : Except Fault (Upload × UploadJob) := do
  let call := Coordinator.Call.uploadPart (FileCut.number job.next) { body := .bytes [] }
  let (u, _, coordinator) ← job.coordinator.enter call
  return (u, { job with coordinator, next := job.next + 1, underWay := job.next :: job.underWay })

/-- Take in the result of the part at an index.  After the first failure nothing counts any
more. -/
def finishPart (job : UploadJob) (index : UInt64) (result : Except Fault Part) : UploadJob :=
  let job := { job with underWay := job.underWay.erase index }
  match job.failure, result with
  | some _, _ => job
  | none, .ok part => { job with finished := job.finished ++ [part] }
  | none, .error f => { job with failure := some f }

end UploadJob

namespace Client

def settled {α : Type} (op : Operation α) : Operation (Except Fault α) :=
  ExceptT.mk (op.run.bind fun result => .done (.ok result))

/-- Upload the next `n` parts of a job one after the other, until one fails. -/
def uploadParts (c : Client) (file : LocalFile) : Nat → UploadJob → Operation UploadJob
  | 0, job => return job
  | n + 1, job => do
    let (u, begun) ← Operation.lift job.beginPart
    let result ← settled (UploadJob.partOperation c file job.cut u job.next)
    let job := begun.finishPart job.next result
    if job.failure.isSome then return job else c.uploadParts file n job

/-- Abort the upload of a job; what comes of it is not reported. -/
def abortJob (c : Client) (job : UploadJob) : Operation Unit :=
  match job.coordinator.enter .abort with
  | .error _ => return ()
  | .ok (u, _, _) => do
    let _ ← settled (c.abortUpload u)
    return ()

/-- Complete the upload of a job from the parts that have finished. -/
def completeJob (c : Client) (job : UploadJob) : Operation Completed :=
  match job.coordinator.enter (.complete job.finished) with
  | .error f => throw f
  | .ok (u, _, _) => c.completeUpload u job.finished

/-- What uploading a file comes to, with the parts that were uploaded. -/
structure FileUpload where
  result : Except Fault Completed
  parts : List Part := []

/-- Upload a file in parts.  A part that fails makes the upload be aborted, and the fault of
the part is the result. -/
def uploadFile (c : Client) (bucket key : String) (file : Except InputFault LocalFile)
    (props : ObjectProperties) (plan : PartPlan) : Operation FileUpload :=
  match file with
  | .error f => return { result := .error (.input f) }
  | .ok file =>
    let cut := FileCut.ofPlan file.size plan
    match cut.check with
    | .error f => return { result := .error f }
    | .ok _ => do
      match ← settled (c.startUpload bucket key props) with
      | .error f => return { result := .error f }
      | .ok u =>
        let job ← c.uploadParts file cut.count.toNat (UploadJob.start u cut plan)
        match job.failure with
        | some f =>
          c.abortJob job
          return { result := .error f, parts := job.finished }
        | none =>
          let result ← settled (c.completeJob job)
          return { result, parts := job.finished }

end Client

end ObjectStore
