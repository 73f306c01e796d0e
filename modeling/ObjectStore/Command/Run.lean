import ObjectStore.Client.Buckets
import ObjectStore.Client.Listings
import ObjectStore.Client.Objects
import ObjectStore.Command.Fault
import ObjectStore.Command.Line
import ObjectStore.Command.Session
import ObjectStore.Settings
/-!
# Running commands

Each command reads its path, performs operations of a client and prints what came of them.
Nothing is sent before the path and the settings have been accepted.

**Removing everything under a prefix names the listed keys in batches**, in the order of the
listing; the first batch that fails ends the command.
-/

namespace ObjectStore.Command

/-- A session that may fail. -/
abbrev Act (α : Type) : Type := ExceptT CommandFault Session α

namespace Act

def lift {α : Type} (e : Except CommandFault α) : Act α := ExceptT.mk (.done e)

/-- Go on with the value of a session, or fail as its error says. -/
def mapFault {ε α : Type} (f : ε → CommandFault) (s : Session (Except ε α)) : Act α :=
  ExceptT.mk (s.bind fun r => .done (r.mapError f))

def print (text : String) : Act Unit := ExceptT.mk (.print text (.done (.ok ())))

def readLine : Act String := ExceptT.mk (.readLine fun l => .done (.ok l))

def perform {α : Type} (activity : Activity) (op : Operation α) : Act α :=
  mapFault (.service activity) (Session.ofDialogue op.run)

def bucketPath (text : String) : Act ObjectPath :=
  lift ((ObjectPath.read text).mapError .path)

def objectPath (text : String) : Act (String × String) :=
  lift ((ObjectPath.readObject text).mapError .path)

/-- Ask a question that only `y` affirms. -/
def confirm (question : String) : Act Bool := do
  print (question ++ " [y/N]: ")
  let line ← readLine
  return lowerCase (Text.trim line) = "y"

end Act

open Act

/-! ### Listings -/

def showVersions (c : Client) (path : String) (pageSize : Option UInt32) (singlePage : Bool)
    (markers : Listing.Markers) : Act Unit := do
  let p ← bucketPath path
  let start : Listing.PageState := { keyPrefix := p.key, limit := pageSize, markers }
  let mode := if singlePage then .chunk else .merge
  let chunk ← perform .listVersions (c.listVersions p.bucket start mode)
  print (String.join (chunk.items.map versionLine))
  if chunk.truncated then print (resumeLine chunk.next)

def showObjects (c : Client) (path : String) (recursive : Bool) : Act Unit := do
  let p ← bucketPath path
  let start : Listing.PageState :=
    { keyPrefix := p.key, delimiter := if recursive then none else some "/" }
  let chunk ← perform .listObjects (c.listObjects p.bucket start .merge)
  print (String.join (chunk.commonPrefixes.map commonLine))
  print (String.join (chunk.items.map objectLine))
  if chunk.items.isEmpty && chunk.commonPrefixes.isEmpty then print "No objects found\n"

def showUploads (c : Client) (path : String) : Act Unit := do
  let p ← bucketPath path
  let chunk ← perform .listUploads (c.listUploads p.bucket { keyPrefix := p.key } .merge)
  print (String.join (chunk.items.map uploadLine))
  if chunk.items.isEmpty then print "No multipart uploads in progress\n"

def showParts (c : Client) (path uploadId : String) : Act Unit := do
  let (bucket, key) ← objectPath path
  let chunk ← perform .listParts (c.listParts { uploadId, bucket, key } {} .merge)
  print (String.join (chunk.items.map partLine))
  print (s!"{chunk.items.length} parts, {ByteSize.text (totalSize chunk.items).toNat}\n")

/-! ### Uploads -/

/-- The plan of an upload: that of the settings, where the command line does not say
otherwise. -/
def uploadPlan (settings : UploadSettings) (workers partSizeMb : Option UInt64) : PartPlan :=
  let plan := settings.plan
  let plan := (workers.map plan.withConcurrency).getD plan
  (partSizeMb.map fun n => plan.withPartSize (UploadSettings.mebibytes n)).getD plan

def announcement (source bucket key : String) (size : UInt64) (plan : PartPlan) : String :=
  let count := (FileCut.ofPlan size plan).count.toNat
  let each := ByteSize.text plan.partSize.toNat
  s!"{source} -> s3://{bucket}/{key} (multipart)\n" ++
    s!"  {count} parts of {each} each, {plan.concurrency.toNat} concurrent uploads\n"

def uploadFile (c : Client) (settings : UploadSettings) (source destination : String)
    (workers partSizeMb : Option UInt64) (storageClass contentType : Option String) :
    Act Unit := do
  let (bucket, key) ← objectPath destination
  let content ← mapFault (.file source) (.contents source .done)
  let file := LocalFile.ofBytes content
  let plan := uploadPlan settings workers partSizeMb
  let metadata := Metadata.ofList ((contentType.map fun t => ("content-type", t)).toList)
  print (announcement source bucket key file.size plan)
  let upload ← perform (.upload bucket key)
    (c.uploadFile bucket key (.ok file) { metadata, storageClass } plan)
  let completed ← lift (upload.result.mapError (.service (.upload bucket key)))
  print (s!"  {ByteSize.text file.size.toNat} uploaded, ETag {completed.etag}\n")
  if let some v := completed.versionId then print ("  version " ++ v ++ "\n")

def abortUpload (c : Client) (path uploadId : String) : Act Unit := do
  let (bucket, key) ← objectPath path
  perform .abortUpload (c.abortUpload { uploadId, bucket, key })
  print (s!"Aborted upload {uploadId} for s3://{bucket}/{key}\n")

/-! ### Buckets -/

def changeVersioning (c : Client) (path : String) (change : Option Bool) : Act Unit := do
  let p ← bucketPath path
  if let some enabled := change then
    perform .updateVersioning (c.setVersioning p.bucket enabled none none)
  let v ← perform .readVersioning (c.getVersioning p.bucket)
  print (s!"s3://{p.bucket} versioning: " ++ v.status.getD "never enabled" ++ "\n")
  if let some m := v.mfaDelete then print ("  MFA delete: " ++ m ++ "\n")

/-! ### Removal -/

/-- Cut a list into pieces of `size`, the last one possibly shorter. -/
def batches {α : Type} (size : Nat) : List α → List (List α)
  | [] => []
  | a :: l => (a :: l.take (size - 1)) :: batches size (l.drop (size - 1))
termination_by l => l.length
decreasing_by
  simp only [List.length_drop, List.length_cons]
  omega

def deletionLines (r : DeletionResult) : String :=
  String.join (r.deleted.map fun d => "Deleted: " ++ d.key ++ "\n") ++
    String.join (r.errors.map fun e =>
      s!"Error deleting {e.key}: {e.code} - {e.message}\n")

/-- Delete batches of keys one after the other, and count the objects deleted. -/
def removeBatches (c : Client) (bucket : String) : Nat → List (List String) → Act Nat
  | total, [] => return total
  | total, keys :: rest => do
    let objects : List ObjectName := keys.map fun key => { key }
    let r ← perform .deleteObjects (c.deleteObjects bucket objects false none)
    print (deletionLines r)
    removeBatches c bucket (total + r.deleted.length) rest

/-- Delete everything whose key begins as the path says. -/
def removeAll (c : Client) (bucket start : String) (force : Bool) : Act Unit := do
  let listing ← perform .listObjects (c.listObjects bucket { keyPrefix := some start } .merge)
  let keys := listing.items.map (·.key)
  if keys.isEmpty then print "No objects found\n"
  else
    let question := s!"Delete {keys.length} objects under s3://{bucket}/{start}?"
    if !(← if force then pure true else confirm question) then print "Delete cancelled\n"
    else
      let total ← removeBatches c bucket 0 (batches Client.maxDeletions keys)
      print (s!"Total deleted: {total} objects\n")

def removeOne (c : Client) (bucket key : String) (versionId : Option String) (force : Bool) :
    Act Unit := do
  let question := s!"Delete s3://{bucket}/{key}?"
  if !(← if force then pure true else confirm question) then print "Delete cancelled\n"
  else
    perform .deleteObject (c.deleteObject bucket key versionId none)
    print (s!"Deleted: s3://{bucket}/{key}\n")

def remove (c : Client) (path : String) (versionId : Option String) (recursive force : Bool) :
    Act Unit := do
  let (bucket, key) ← objectPath path
  if recursive then removeAll c bucket key force else removeOne c bucket key versionId force

/-! ### Commands -/

def act (c : Client) (settings : UploadSettings) : Action → Act Unit
  | .versions path pageSize singlePage primary secondary =>
    showVersions c path pageSize singlePage { primary, secondary }
  | .list path recursive => showObjects c path recursive
  | .uploads path => showUploads c path
  | .parts path uploadId => showParts c path uploadId
  | .upload source destination workers partSizeMb storageClass contentType =>
    uploadFile c settings source destination workers partSizeMb storageClass contentType
  | .abort path uploadId => abortUpload c path uploadId
  | .versioning bucket enable suspend =>
    changeVersioning c bucket
      (if enable then some true else if suspend then some false else none)
  | .remove path versionId recursive force => remove c path versionId recursive force

def configure (i : Invocation) (s : Settings) : Except CommandFault ClientConfig :=
  match s.profile? i.profile with
  | none => .error .noProfile
  | some p => do
    let config ← p.client.mapError .settings
    return { config with insecureTls := config.insecureTls || i.insecure }

def Invocation.run (i : Invocation) (e : Environment) (now : Moment) : Act Unit := do
  let loading : Session (Except SettingsFault Settings) :=
    Settings.load (fun name => .contents name .done) e i.config i.profile
  let loaded ← mapFault .settings loading
  let config ← lift (configure i loaded)
  act (Client.ofConfig config now) loaded.upload i.action

end ObjectStore.Command
