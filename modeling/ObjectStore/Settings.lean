import ObjectStore.Settings.Profile
import ObjectStore.Text.Utf8
/-!
# Settings

Settings are profiles under names, the name of the profile to use when none is asked for, and
how files are uploaded.  They come from a file or, without one, from the environment, as a
single profile called `default`.
-/

namespace ObjectStore

structure UploadSettings where
  /-- The size of a part in MiB. -/
  partSizeMb : UInt64 := 5
  /-- How many parts are under way at once. -/
  concurrency : UInt64 := 10
  deriving Repr, DecidableEq

namespace UploadSettings

/-- The number of bytes in so many MiB, in words of 64 bits. -/
def mebibytes (n : UInt64) : UInt64 := n * 1024 * 1024

def plan (u : UploadSettings) : PartPlan :=
  (({} : PartPlan).withPartSize (mebibytes u.partSizeMb)).withConcurrency u.concurrency

open Yaml Yaml.Value in
def read? (v : Value) : Option UploadSettings := do
  let fields ← fields? ["part_size_mb", "concurrency"] v
  let d : UploadSettings := {}
  let partSizeMb ← field fields "part_size_mb" (number? UInt64.size) d.partSizeMb.toNat
  let concurrency ← field fields "concurrency" (number? UInt64.size) d.concurrency.toNat
  return { partSizeMb := partSizeMb.toUInt64, concurrency := concurrency.toUInt64 }

end UploadSettings

/-- Named profiles and what goes with them. -/
structure Settings where
  profiles : Table Profile := Table.empty
  /-- The profile to use when none is named. -/
  defaultProfile : Option String := none
  upload : UploadSettings := {}

namespace Settings

/-- The profile of a name.  Without a name it is the default one, the only one, or the one
called `default`. -/
def profile? (s : Settings) (name : Option String) : Option Profile :=
  match name, s.defaultProfile, s.profiles.entries with
  | some name, _, _ => s.profiles.get? name
  | none, some name, _ => s.profiles.get? name
  | none, none, [(_, p)] => some p
  | none, none, _ => s.profiles.get? "default"

/-! ### Loading -/

open Yaml Yaml.Value in
def readProfiles? (v : Value) : Option (Table Profile) := do
  let entries ← entries? v
  let profiles ← entries.mapM fun (name, v) => (Profile.read? v).map fun p => (name, p)
  return Table.ofList profiles

open Yaml Yaml.Value in
def read? (v : Value) : Option Settings := do
  let fields ← fields? ["profiles", "default_profile", "upload"] v
  return {
    profiles := ← field fields "profiles" readProfiles? Table.empty
    defaultProfile := ← field fields "default_profile" (optional? text?) none
    upload := ← field fields "upload" UploadSettings.read? {} }

def ofFile (path : String) (content : Except InputFault Bytes) : Except SettingsFault Settings :=
  match content with
  | .error f => .error (.file path f)
  | .ok bytes =>
    match Text.Utf8.decode? bytes with
    | none => .error (.file path .notText)
    | some text =>
      match (Yaml.document? text).bind read? with
      | none => .error .document
      | some s => .ok s

/-- The settings with another profile as the default one; it has to be there. -/
def withDefault (s : Settings) (name : Option String) : Except SettingsFault Settings :=
  match name with
  | none => .ok s
  | some name =>
    if s.profiles.contains name then .ok { s with defaultProfile := some name }
    else .error (.unknownProfile name)

def ofEnvironment (e : Environment) : Except SettingsFault Settings := do
  let p ← Profile.ofEnvironment e
  return { profiles := Table.empty.insert "default" p, defaultProfile := some "default" }

/-- The name of the assignment file that adds to the environment. -/
def assignmentFile : String := ".env"

/-- Load the settings from a file if one is named, else from the environment and the
assignment file beside the program. -/
def load {m : Type → Type} [Monad m] (contents : String → m (Except InputFault Bytes))
    (e : Environment) (path profile : Option String) : m (Except SettingsFault Settings) := do
  match path with
  | some path =>
    let content ← contents path
    return (ofFile path content).bind fun s => s.withDefault profile
  | none =>
    let content ← contents assignmentFile
    let text := content.toOption.bind Text.Utf8.decode?
    return ofEnvironment ((text.map e.addFile).getD e)

end Settings

end ObjectStore
