import ObjectStore.Client
import ObjectStore.Listing.Objects
import ObjectStore.Listing.Uploads
/-!
# Listings of a client

The four listings: objects, versions, uploads and the parts of an upload.  Only listings send
a request again after a transient fault, as their pager decides.
-/

namespace ObjectStore.Client

open ObjectStore.Listing

def answerPages {α β : Type} (page : Query → Operation α) :
    Dialogue Query (Except Fault α) (Except Fault β) → Operation β
  | .done result => Operation.lift result
  | .unfinished => ExceptT.mk .unfinished
  | .ask q next =>
    ExceptT.mk do
      let r ← (page q).run
      (answerPages page (next r)).run

def list {α : Type} (c : Client) (kind : Kind) (context : Context) (base : Query)
    (start : PageState) (mode : Mode) (shape : Shape)
    (read : Bytes → Except Xml.Fault (Chunk α)) : Operation (Chunk α) :=
  let plan : Plan := { kind, base, start, mode, context, retryMax := c.retryMax }
  let page (query : Query) : Operation (Chunk α) :=
    c.fetch { method := .get, bucket := context.bucket, key := context.key, query } shape read
  answerPages page (plan.dialogue c.pageBudget plan.begin)

def listObjects (c : Client) (bucket : String) (start : PageState) (mode : Mode) :
    Operation (Chunk StoredObject) :=
  c.list .objects { bucket := some bucket } Query.empty start mode .listObjects ObjectsPage.read

def listVersions (c : Client) (bucket : String) (start : PageState) (mode : Mode) :
    Operation (Chunk ObjectVersion) :=
  c.list .versions { bucket := some bucket } Query.empty start mode .listVersions
    VersionsPage.read

def listUploads (c : Client) (bucket : String) (start : PageState) (mode : Mode) :
    Operation (Chunk Upload) :=
  if bucket.isEmpty then Operation.lift (.error (.invalidArgument .noBucket))
  else
    c.list .uploads { bucket := some bucket } Query.empty start mode .listUploads
      UploadsPage.read

/-- The parts of an upload, a thousand to a page unless the caller says otherwise. -/
def listParts (c : Client) (u : Upload) (start : PageState) (mode : Mode) :
    Operation (Chunk Part) :=
  c.list .parts { bucket := some u.bucket, key := some u.key, uploadId := some u.uploadId }
    (Query.empty.set "uploadId" u.uploadId) { start with limit := some (start.limit.getD 1000) }
    mode .listParts PartsPage.read

end ObjectStore.Client
