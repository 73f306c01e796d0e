import ObjectStore.Xml.Element
import ObjectStore.Xml.Field
/-!
# Settings of a bucket

Settings that are a word or two each: versioning, who pays for requests, transfer
acceleration and the region.
-/

namespace ObjectStore

open ObjectStore.Xml

/-! ### Versioning -/

/-- Whether a bucket keeps versions; a bucket that never did has no status. -/
structure VersioningStatus where
  status : Option String := none
  mfaDelete : Option String := none
  deriving Repr, DecidableEq

namespace VersioningStatus

def isEnabled (v : VersioningStatus) : Bool := v.status = some "Enabled"

def isSuspended (v : VersioningStatus) : Bool := v.status = some "Suspended"

def isMfaDeleteEnabled (v : VersioningStatus) : Bool := v.mfaDelete = some "Enabled"

def visit (v : VersioningStatus) : Node → Except Xml.Fault VersioningStatus
  | .closed "Status" text => .ok { v with status := nonEmpty text }
  | .closed "MfaDelete" text => .ok { v with mfaDelete := nonEmpty text }
  | _ => .ok v

def read (s : Bytes) : Except Xml.Fault VersioningStatus :=
  readDocument "VersioningConfiguration" visit {} s

def document (enabled : Bool) (mfaDelete : Option Bool) : String :=
  renderDocument "VersioningConfiguration"
    (.text "Status" (if enabled then "Enabled" else "Suspended") ::
      (mfaDelete.map fun on =>
        Element.text "MfaDelete" (if on then "Enabled" else "Disabled")).toList)

end VersioningStatus

/-! ### Who pays -/

namespace RequestPayment

def read (s : Bytes) : Except Xml.Fault Bool := do
  let visit (payer : String) : Node → Except Xml.Fault String
    | .closed "Payer" text => .ok text
    | _ => .ok payer
  let payer ← readDocument "RequestPaymentConfiguration" visit "" s
  match payer with
  | "Requester" => .ok true
  | "BucketOwner" => .ok false
  | other => .error (.unknownPayer other)

def document (requesterPays : Bool) : String :=
  renderDocument "RequestPaymentConfiguration"
    [.text "Payer" (if requesterPays then "Requester" else "BucketOwner")]

end RequestPayment

/-! ### Acceleration -/

namespace Acceleration

/-- Whether acceleration is on; a bucket that never had it reports no status. -/
def read (s : Bytes) : Except Xml.Fault Bool :=
  let visit (enabled : Bool) : Node → Except Xml.Fault Bool
    | .closed "Status" text => .ok (text = "Enabled")
    | _ => .ok enabled
  readDocument "AccelerateConfiguration" visit false s

def document (enabled : Bool) : String :=
  renderDocument "AccelerateConfiguration"
    [.text "Status" (if enabled then "Enabled" else "Suspended")]

end Acceleration

/-! ### Location -/

/-- The region of a bucket; the default region has no name. -/
def readLocation (s : Bytes) : Except Xml.Fault (Option String) :=
  let visit (location : Option String) : Node → Except Xml.Fault (Option String)
    | .closed "LocationConstraint" text => .ok (nonEmpty text)
    | _ => .ok location
  readDocument "LocationConstraint" visit none s

end ObjectStore
