import ObjectStore.Xml.Element
import ObjectStore.Xml.Field
/-!
# Deleting many objects

One request names up to a thousand objects or versions; its answer says of each whether it
was deleted.  Deletions and errors of an answer keep their order.
-/

namespace ObjectStore

open ObjectStore.Xml

/-- An object, or one version of it. -/
structure ObjectName where
  key : String
  versionId : Option String := none
  deriving Repr, DecidableEq

structure DeletedObject where
  key : String := ""
  versionId : Option String := none
  deleteMarker : Option Bool := none
  deleteMarkerVersionId : Option String := none
  deriving Repr, DecidableEq

/-- An object that was not deleted, and why. -/
structure DeletionError where
  key : String := ""
  versionId : Option String := none
  code : String := ""
  message : String := ""
  deriving Repr, DecidableEq

/-- The answer to a deletion of many objects. -/
structure DeletionResult where
  deleted : List DeletedObject := []
  errors : List DeletionError := []
  deriving Repr

namespace DeletionResult

def hasErrors (r : DeletionResult) : Bool := !r.errors.isEmpty

structure Progress where
  result : DeletionResult := {}
  deleted : Option DeletedObject := none
  error : Option DeletionError := none

def closeInDeleted (p : Progress) (d : DeletedObject) (name text : String) : Progress :=
  match name with
  | "Key" => { p with deleted := some { d with key := text } }
  | "VersionId" => { p with deleted := some { d with versionId := some text } }
  | "DeleteMarker" => { p with deleted := some { d with deleteMarker := some (text = "true") } }
  | "DeleteMarkerVersionId" =>
    { p with deleted := some { d with deleteMarkerVersionId := some text } }
  | "Deleted" =>
    { p with deleted := none, result := { p.result with deleted := p.result.deleted ++ [d] } }
  | _ => p

def closeInError (p : Progress) (e : DeletionError) (name text : String) : Progress :=
  match name with
  | "Key" => { p with error := some { e with key := text } }
  | "VersionId" => { p with error := some { e with versionId := some text } }
  | "Code" => { p with error := some { e with code := text } }
  | "Message" => { p with error := some { e with message := text } }
  | "Error" =>
    { p with error := none, result := { p.result with errors := p.result.errors ++ [e] } }
  | _ => p

def visit (p : Progress) : Node → Except Xml.Fault Progress
  | .opened "Deleted" => .ok { p with deleted := some {} }
  | .opened "Error" => .ok { p with error := some {} }
  | .opened _ => .ok p
  | .closed name text =>
    match p.deleted, p.error with
    | some d, _ => .ok (closeInDeleted p d name text)
    | none, some e => .ok (closeInError p e name text)
    | none, none => .ok p

def read (s : Bytes) : Except Xml.Fault DeletionResult := do
  let p ← readDocument "DeleteResult" visit {} s
  return p.result

end DeletionResult

def ObjectName.element (o : ObjectName) : Element :=
  .node "Object" (.text "Key" o.key :: (o.versionId.map (Element.text "VersionId")).toList)

/-- The document that asks for objects to be deleted; a quiet deletion reports errors only. -/
def deletionRequest (objects : List ObjectName) (quiet : Bool) : String :=
  renderDocument "Delete"
    ((if quiet then [Element.text "Quiet" "true"] else []) ++ objects.map ObjectName.element)

end ObjectStore
