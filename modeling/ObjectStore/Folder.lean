import ObjectStore.Http.Message
import ObjectStore.Table
/-!
# Folders

A folder holds the files that a session can read when it runs apart from any disk.  A path is
followed part by part, and **only a path that ends at a file has a content:** a part that is
empty or one dot stays where it is, two dots lead out of the folder, and nothing lies behind a
file.  Outside of the folder nothing is known but that there are further folders.
-/

namespace ObjectStore

abbrev Folder : Type := Table Bytes

namespace Folder

/-- Where the first parts of a path lead. -/
inductive Spot where
  | inside
  | outside
  | file (content : Bytes)

def longestName : Nat := 255

def follow (d : Folder) : Spot → List (List Char) → Except InputFault Spot
  | spot, [] => .ok spot
  | .file _, _ :: _ => .error .notFolder
  | spot, part :: parts =>
    if part.isEmpty || part = ['.'] then follow d spot parts
    else if part = ['.', '.'] then follow d .outside parts
    else
      let name := String.ofList part
      if longestName < name.utf8ByteSize then .error .longName
      else
        match spot with
        | .inside => (d.get? name).elim (.error .noSuchFile) fun b => follow d (.file b) parts
        | _ => .error .noSuchFile

/-- The content of the file to which a path leads. -/
def contents (d : Folder) (path : String) : Except InputFault Bytes :=
  if path.isEmpty then .error .noSuchFile
  else
    match d.follow (if path.startsWith "/" then .outside else .inside)
        (path.toList.splitOn '/') with
    | .error f => .error f
    | .ok (.file b) => .ok b
    | .ok _ => .error .folder

end Folder

end ObjectStore
