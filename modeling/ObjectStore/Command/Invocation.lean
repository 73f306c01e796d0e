import ObjectStore.Command.Grammar
/-!
# Invocations

An invocation is a command line that has been read: what to do, and the options that go with
every command.  Those may stand before the name of the command or behind it; **behind it they
win.**
-/

namespace ObjectStore.Command

inductive Action where
  | versions (path : String) (pageSize : Option UInt32) (singlePage : Bool)
      (keyMarker versionIdMarker : Option String)
  | list (path : String) (recursive : Bool)
  | uploads (path : String)
  | parts (path uploadId : String)
  | upload (source destination : String) (workers partSizeMb : Option UInt64)
      (storageClass contentType : Option String)
  | abort (path uploadId : String)
  | versioning (bucket : String) (enable suspend : Bool)
  | remove (path : String) (versionId : Option String) (recursive force : Bool)
  deriving Repr, DecidableEq

structure Invocation where
  action : Action
  config : Option String := none
  profile : Option String := none
  logLevel : String := "warn"
  insecure : Bool := false
  deriving Repr, DecidableEq

/-! ### The commands -/

def helpOption : OptionForm :=
  { name := "help", short := some 'h', kind := .help, purpose := "Print help" }

def versionOption : OptionForm :=
  { name := "version", short := some 'V', kind := .version, purpose := "Print version" }

def commonOptions : List OptionForm :=
  [{ name := "config", kind := .text,
     purpose := "Config file path (YAML); environment variables are used when absent" },
   { name := "profile", kind := .text, purpose := "Profile to use from config" },
   { name := "log-level", kind := .text,
     purpose := "Log level (error, warn, info, debug, trace) [default: warn]" },
   { name := "insecure", purpose := "Disable SSL certificate verification" }]

structure Entry where
  name : String
  purpose : String
  /-- The positional words, each with what it is for. -/
  positionals : List (String × String)
  options : List OptionForm := []

/-- The word for a bucket and the beginning of keys in it. -/
def startWord : String × String := ("PATH", "S3 path (s3://bucket/prefix)")

def objectWord : String × String := ("PATH", "S3 path (s3://bucket/key)")

def uploadIdOption : OptionForm :=
  { name := "upload-id", kind := .text, required := true, purpose := "Upload id" }

/-- The commands in the order in which they are presented. -/
def entries : List Entry :=
  [{ name := "versions", purpose := "List object versions and delete markers",
     positionals := [startWord],
     options :=
       [{ name := "page-size", kind := .number UInt32.size true, purpose := "Server page size" },
        { name := "single-page",
          purpose := "Fetch a single page and print the resume markers" },
        { name := "key-marker", kind := .text,
          purpose := "Resume after this key (printed by --single-page)" },
        { name := "version-id-marker", kind := .text, needs := some "key-marker",
          purpose := "Resume after this version of --key-marker" }] },
   { name := "ls", purpose := "List objects", positionals := [startWord],
     options := [{ name := "recursive", short := some 'r', purpose := "List recursively" }] },
   { name := "uploads", purpose := "List in-progress multipart uploads",
     positionals := [startWord] },
   { name := "parts", purpose := "List the parts of a multipart upload",
     positionals := [objectWord], options := [uploadIdOption] },
   { name := "upload", purpose := "Upload a local file with a multipart upload",
     positionals := [("FILE", "Local file"), ("DEST", "Destination (s3://bucket/key)")],
     options :=
       [{ name := "workers", short := some 'P', kind := .number UInt64.size false,
          purpose := "Parts uploaded in parallel (default from config)" },
        { name := "part-size-mb", kind := .number UInt64.size false,
          purpose := "Part size in MiB, minimum 5 (default from config)" },
        { name := "storage-class", kind := .text,
          purpose := "Storage class (STANDARD, STANDARD_IA, GLACIER, etc.)" },
        { name := "content-type", kind := .text, purpose := "Content type" }] },
   { name := "abort", purpose := "Abort a multipart upload", positionals := [objectWord],
     options := [uploadIdOption] },
   { name := "versioning", purpose := "Show or change bucket versioning",
     positionals := [("BUCKET", "Bucket (s3://bucket)")],
     options :=
       [{ name := "enable", excludes := some "suspend", purpose := "Enable versioning" },
        { name := "suspend", purpose := "Suspend versioning" }] },
   { name := "rm", purpose := "Remove objects",
     positionals := [("PATH", "S3 path (s3://bucket/key or s3://bucket/prefix)")],
     options :=
       [{ name := "version-id", kind := .text, excludes := some "recursive",
          purpose := "Delete a specific version" },
        { name := "recursive", short := some 'r',
          purpose := "Delete every object under the prefix" },
        { name := "force", short := some 'f', purpose := "Delete without confirmation" }] }]

def helpName : String := "help"

def Entry.form (e : Entry) : Form :=
  { command := some e.name, positionals := e.positionals.map (·.1),
    options := e.options ++ commonOptions ++ [helpOption] }

def outerForm : Form :=
  { options := commonOptions ++ [helpOption, versionOption],
    commands := entries.map (·.name) ++ [helpName] }

/-! ### Reading -/

namespace Given

def number? (g : Given) (name : String) (bound : Nat) (signed : Bool) : Option Nat :=
  (g.value? name).bind (readNumber bound signed)

def word (g : Given) (i : Nat) : String := g.positionals.getD i ""

def action (g : Given) (command : String) : Action :=
  match command with
  | "versions" =>
    .versions (g.word 0) ((g.number? "page-size" UInt32.size true).map Nat.toUInt32)
      (g.has "single-page") (g.value? "key-marker") (g.value? "version-id-marker")
  | "uploads" => .uploads (g.word 0)
  | "parts" => .parts (g.word 0) ((g.value? "upload-id").getD "")
  | "upload" =>
    .upload (g.word 0) (g.word 1) ((g.number? "workers" UInt64.size false).map Nat.toUInt64)
      ((g.number? "part-size-mb" UInt64.size false).map Nat.toUInt64) (g.value? "storage-class")
      (g.value? "content-type")
  | "abort" => .abort (g.word 0) ((g.value? "upload-id").getD "")
  | "versioning" => .versioning (g.word 0) (g.has "enable") (g.has "suspend")
  | "rm" => .remove (g.word 0) (g.value? "version-id") (g.has "recursive") (g.has "force")
  | _ => .list (g.word 0) (g.has "recursive")

end Given

/-- What a request for help with the given words comes to. -/
def helpOn : List String → UsageFault
  | [] => .help none
  | w :: ws =>
    if outerForm.commands.contains w then
      match ws with
      | [] => .help (some w)
      | v :: _ => .unknownCommand v
    else .unknownCommand w

def Invocation.read (ws : List String) : Except UsageFault Invocation := do
  let (outer, command) ← Reading.words outerForm {} ws
  match command with
  | none => do
    let outer ← outer.settle outerForm
    if outer.given.options.isEmpty then throw .nothing else throw .missingCommand
  | some (name, ws) =>
    match entries.find? fun e => e.name == name with
    | none => throw (helpOn ws)
    | some e => do
      let inner ← e.form.read ws
      let outer ← outer.settle outerForm
      let common (name : String) := (inner.value? name).or (outer.given.value? name)
      return {
        action := inner.action name
        config := common "config"
        profile := common "profile"
        logLevel := (common "log-level").getD "warn"
        insecure := (common "insecure").isSome }

end ObjectStore.Command
