import ObjectStore.Command.Invocation
import ObjectStore.Command.Path
import ObjectStore.Fault
import ObjectStore.Settings.Fault
/-!
# Why a command fails

A failed command is reported with what it was doing and, behind that, the causes from the
outermost to the innermost.
-/

namespace ObjectStore.Command

inductive Activity where
  | listVersions
  | listObjects
  | listUploads
  | listParts
  | abortUpload
  | updateVersioning
  | readVersioning
  | deleteObject
  | deleteObjects
  | upload (bucket key : String)
  deriving Repr, DecidableEq

def Activity.message : Activity → String
  | .listVersions => "Failed to list versions"
  | .listObjects => "Failed to list objects"
  | .listUploads => "Failed to list multipart uploads"
  | .listParts => "Failed to list parts"
  | .abortUpload => "Failed to abort multipart upload"
  | .updateVersioning => "Failed to update versioning"
  | .readVersioning => "Failed to read versioning status"
  | .deleteObject => "Failed to delete object"
  | .deleteObjects => "Failed to delete objects"
  | .upload bucket key => "Multipart upload to s3://" ++ bucket ++ "/" ++ key ++ " failed"

inductive CommandFault where
  | noWorkers
  | smallParts
  | settings (cause : SettingsFault)
  | noProfile
  | path (cause : PathFault)
  | file (name : String) (cause : InputFault)
  | service (activity : Activity) (cause : Fault)
  | unfinished
  deriving Repr, DecidableEq

namespace CommandFault

def message : CommandFault → String
  | .noWorkers => "Workers count must be greater than 0"
  | .smallParts => "Part size must be at least 5 MiB"
  | .settings cause => cause.message
  | .noProfile => "No matching profile in configuration"
  | .path cause => cause.message
  | .file name _ => "Failed to stat " ++ name
  | .service activity _ => activity.message
  | .unfinished => "The command did not finish"

def causes : CommandFault → List String
  | .settings cause => cause.causes
  | .file _ cause => [cause.message]
  | .service _ cause => cause.message :: cause.causes
  | _ => []

/-! ### Reports -/

/-- A text behind `start`, its further lines indented by `margin`. -/
def hanging (start margin text : String) : String :=
  start ++ String.intercalate ("\n" ++ margin) (Text.splitText '\n' text)

def numbered (number : Nat) (text : String) : String :=
  let n := toString number
  hanging (String.ofList (List.replicate (5 - n.length) ' ') ++ n ++ ": ") "       " text

def numberedFrom : Nat → List String → List String
  | _, [] => []
  | n, c :: cs => numbered n c :: numberedFrom (n + 1) cs

/-- The causes as the lines of a report.  A single cause goes without a number. -/
def causeLines : List String → List String
  | [] => []
  | [c] => ["", "Caused by:", hanging "    " "    " c]
  | cs => "" :: "Caused by:" :: numberedFrom 0 cs

def report (f : CommandFault) : String :=
  String.intercalate "\n" (("Error: " ++ f.message) :: causeLines f.causes) ++ "\n"

end CommandFault

/-- Refuse options that admit no upload. -/
def Invocation.check (i : Invocation) : Except CommandFault Unit :=
  match i.action with
  | .upload _ _ workers partSizeMb _ _ =>
    if workers = some 0 then .error .noWorkers
    else if partSizeMb.any (· < 5) then .error .smallParts
    else .ok ()
  | _ => .ok ()

end ObjectStore.Command
