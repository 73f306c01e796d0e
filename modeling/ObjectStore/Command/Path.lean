import ObjectStore.Text.Blank
import ObjectStore.Text.Cut
/-!
# Object paths

On the command line a bucket, or an object in it, is written `s3://bucket/key` or, shorter,
`s3/bucket/key`.  The bucket ends at the first slash; **everything after that slash is the
key**, other slashes included, and an empty key is no key.  Blanks around a path are no part
of it.
-/

namespace ObjectStore

inductive PathFault where
  | form
  | noBucket
  | noKey (path : String)
  deriving Repr, DecidableEq

def PathFault.message : PathFault → String
  | .form => "Invalid S3 path format. Expected: s3://bucket/key"
  | .noBucket => "Bucket name cannot be empty"
  | .noKey path => "Object key required in " ++ path

/-- A bucket, and a key or the beginning of keys in it. -/
structure ObjectPath where
  bucket : String
  key : Option String := none
  deriving Repr, DecidableEq

namespace ObjectPath

def starts : List String := ["s3://", "s3/"]

/-- What stands after the first of the beginnings that the text has. -/
def afterStart? (text : String) : Option String :=
  starts.findSome? fun start => Text.afterStart? start text

def read (text : String) : Except PathFault ObjectPath :=
  match afterStart? (Text.trim text) with
  | none => .error .form
  | some rest =>
    let (bucket, key) := Text.cutText '/' rest
    if bucket.isEmpty then .error .noBucket
    else .ok { bucket, key := key.filter fun k => !k.isEmpty }

/-- The bucket and the key that a text writes, where a key is required. -/
def readObject (text : String) : Except PathFault (String × String) := do
  let p ← read text
  match p.key with
  | some key => return (p.bucket, key)
  | none => throw (.noKey text)

end ObjectPath

end ObjectStore
