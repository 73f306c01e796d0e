import ObjectStore.Bucket.Lifecycle
import ObjectStore.Bucket.Notification
import ObjectStore.Bucket.Settings
import ObjectStore.Client.Objects
/-!
# Buckets of a client

Reading and changing what is configured for a bucket.  Each setting is a sub-resource of the
bucket: a flag in the query names it, and a document holds its value.
-/

namespace ObjectStore.Client

def getSetting {α : Type} (c : Client) (bucket flag : String) (shape : Shape)
    (read : Bytes → Except Xml.Fault α) : Operation α :=
  c.fetch { method := .get, bucket := some bucket, query := Query.empty.flag flag } shape read

def putSetting (c : Client) (bucket flag document : String) (mfa : Option MfaToken) :
    Operation Unit := do
  let _ ← c.dispatchAndDrain (c.withMfa mfa (documentDescriptor .put bucket flag document))
  return ()

def deleteSetting (c : Client) (bucket flag : String) : Operation Unit := do
  let _ ← c.dispatchAndDrain
    { method := .delete, bucket := some bucket, query := Query.empty.flag flag,
      expected := [204, 200] }
  return ()

def getVersioning (c : Client) (bucket : String) : Operation VersioningStatus :=
  c.getSetting bucket "versioning" .versioning VersioningStatus.read

def setVersioning (c : Client) (bucket : String) (enabled : Bool) (mfaDelete : Option Bool)
    (mfa : Option MfaToken) : Operation Unit :=
  c.putSetting bucket "versioning" (VersioningStatus.document enabled mfaDelete) mfa

/-- The policy of a bucket, which is text of a format of its own. -/
def getPolicy (c : Client) (bucket : String) : Operation String :=
  c.getSetting bucket "policy" .raw fun body => (Text.Utf8.decode body).mapError .notUtf8

def setPolicy (c : Client) (bucket policy : String) : Operation Unit := do
  let _ ← c.dispatchAndDrain
    { method := .put, bucket := some bucket, query := Query.empty.flag "policy",
      metadata := Metadata.empty.insert "content-type" "application/json",
      body := .ofBytes (utf8 policy), expected := [204, 200] }
  return ()

def deletePolicy (c : Client) (bucket : String) : Operation Unit :=
  c.deleteSetting bucket "policy"

def getLocation (c : Client) (bucket : String) : Operation (Option String) :=
  c.getSetting bucket "location" .location readLocation

def getRequesterPays (c : Client) (bucket : String) : Operation Bool :=
  c.getSetting bucket "requestPayment" .requestPayment RequestPayment.read

def setRequesterPays (c : Client) (bucket : String) (on : Bool) : Operation Unit :=
  c.putSetting bucket "requestPayment" (RequestPayment.document on) none

/-- The lifecycle rules of a bucket; a bucket that has none is not found. -/
def getLifecycle (c : Client) (bucket : String) : Operation (Option LifecycleConfig) := do
  let d : Descriptor :=
    { method := .get, bucket := some bucket, query := Query.empty.flag "lifecycle",
      expected := [200, 404] }
  let r ← c.dispatch d
  if r.status = 404 then return none
  else
    let config ← Operation.lift (readBody .lifecycle d.context LifecycleConfig.read r)
    return some config

def setLifecycle (c : Client) (bucket : String) (config : LifecycleConfig) : Operation Unit :=
  c.putSetting bucket "lifecycle" config.document none

def deleteLifecycle (c : Client) (bucket : String) : Operation Unit :=
  c.deleteSetting bucket "lifecycle"

def getAcceleration (c : Client) (bucket : String) : Operation Bool :=
  c.getSetting bucket "accelerate" .acceleration Acceleration.read

def setAcceleration (c : Client) (bucket : String) (on : Bool) : Operation Unit :=
  c.putSetting bucket "accelerate" (Acceleration.document on) none

def getNotifications (c : Client) (bucket : String) : Operation NotificationConfig :=
  c.getSetting bucket "notification" .notification NotificationConfig.read

def setNotifications (c : Client) (bucket : String) (config : NotificationConfig) :
    Operation Unit :=
  c.putSetting bucket "notification" config.document none

end ObjectStore.Client
