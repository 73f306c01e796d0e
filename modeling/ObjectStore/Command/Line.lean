import ObjectStore.ByteSize
import ObjectStore.Listing.Objects
import ObjectStore.Listing.Uploads
import ObjectStore.Listing.Versions
import ObjectStore.Listing.Parts
import ObjectStore.Text.Cut
import ObjectStore.Text.Blank
/-!
# Lines of a listing

A listing is printed one item a line: when it was last modified, its size, and its name.
Columns are filled with blanks up to their width and never cut.
-/

namespace ObjectStore.Command

def alignRight (width : Nat) (s : String) : String :=
  String.ofList (List.replicate (width - s.length) ' ') ++ s

/-! ### Times -/

/-- The characters that take up the first `n` bytes, if a character ends there. -/
def firstBytes? : Nat → List Char → Option (List Char)
  | 0, _ => some []
  | _ + 1, [] => none
  | n + 1, c :: r =>
    if c.utf8Size ≤ n + 1 then (firstBytes? (n + 1 - c.utf8Size) r).map (c :: ·) else none

/-- The time of day in what follows the date: hours, minutes and seconds if they are there. -/
def timeOfDay (s : String) : String :=
  String.ofList ((firstBytes? 8 s.toList).getD (Text.trimEnd (· = 'Z') s.toList))

/-- The column of a time; without a time it is blank. -/
def timeColumn : Option String → String
  | none => String.ofList (List.replicate 23 ' ')
  | some s =>
    match Text.cutText 'T' s with
    | (date, some rest) => date ++ " " ++ timeOfDay rest ++ " UTC"
    | (_, none) => s

/-! ### Items -/

def versionLine (v : Listing.ObjectVersion) : String :=
  let size := (v.size.map fun n => ByteSize.text n.toNat).getD ""
  let kind := if v.isDeleteMarker then "DEL" else "PUT"
  let latest := if v.isLatest then "*" else " "
  s!"[{timeColumn v.lastModified}] {alignRight 7 size} {kind} {latest}{v.key} v={v.versionId}\n"

def resumeLine (m : Listing.Markers) : String :=
  "(truncated) next key-marker=" ++ m.primary.getD "" ++ " version-id-marker=" ++
    m.secondary.getD "" ++ "\n"

/-- The line of a beginning that several keys have in common. -/
def commonLine (start : String) : String :=
  "[" ++ timeColumn none ++ "] " ++ alignRight 7 "PRE" ++ " " ++ start ++ "\n"

def objectLine (o : Listing.StoredObject) : String :=
  s!"[{timeColumn o.lastModified}] {alignRight 7 (ByteSize.text o.size.toNat)} {o.key}\n"

def uploadLine (u : Upload) : String :=
  s!"[{timeColumn u.initiated}] {u.uploadId} {u.key}\n"

def partSize (p : Part) : UInt64 := p.size.getD 0

def partLine (p : Part) : String :=
  let number := alignRight 5 (toString p.number.toNat)
  let size := alignRight 7 (ByteSize.text (partSize p).toNat)
  s!"{number} {size} {p.etag} [{timeColumn p.lastModified}]\n"

/-- The sum of the sizes of parts, in words of 64 bits. -/
def totalSize (parts : List Part) : UInt64 :=
  parts.foldl (fun sum p => sum + partSize p) 0

end ObjectStore.Command
