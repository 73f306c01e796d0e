import ObjectStore.Command.Run
/-!
# The program

The program reads its command line, performs the command and ends with a status: 0 when all
went well, 1 with a report when the command failed, 2 when the command line is no command.
Help and the version are printed where a command would be performed.
-/

namespace ObjectStore.Command

def programName : String := "s3rest"

def versionText : String := programName ++ " 0.3.0\n"

/-! ### Help -/

/-- Rows of two columns, the second one aligned. -/
def columns (rows : List (String × String)) : List String :=
  let width := (rows.map fun r => r.1.length).foldl max 0
  rows.map fun (name, purpose) =>
    "  " ++ name ++ String.ofList (List.replicate (width - name.length + 2) ' ') ++ purpose

/-- How an option is written with its long name, and a word for its value. -/
def OptionForm.words (o : OptionForm) : String :=
  let value := String.ofList (o.name.toList.map fun c => if c = '-' then '_' else c.toUpper)
  "--" ++ o.name ++ (if o.takesValue then " <" ++ value ++ ">" else "")

/-- How an option is written, its short name first. -/
def OptionForm.usage (o : OptionForm) : String :=
  match o.short with
  | some c => String.ofList ['-', c, ',', ' '] ++ o.words
  | none => "    " ++ o.words

def pageWidth : Nat := 100

/-- Whether what the options are for does not fit beside them. -/
def isCrowded (options : List OptionForm) : Bool :=
  let taken := (options.map fun o => o.words.length).foldl max 0 + 12
  2 * pageWidth < 5 * taken && options.any fun o => pageWidth < taken + o.purpose.length

/-- The options of a command, each with what it is for beside it or in a line of its own. -/
def optionLines (options : List OptionForm) : List String :=
  let below (text : String) := String.ofList (List.replicate 10 ' ') ++ text
  "Options:" ::
    if isCrowded options then options.flatMap fun o => ["  " ++ o.usage, below o.purpose]
    else columns (options.map fun o => (o.usage, o.purpose))

def programPurpose : String :=
  "S3-compatible REST client engine: signing, addressing, paginated listings and multipart uploads"

/-- What decides which of two options is shown first: the short name, a small letter before the
capital one, or else the long name. -/
def OptionForm.rank (o : OptionForm) : String :=
  match o.short with
  | some c => String.ofList [c.toLower, if c.isLower then '0' else '1']
  | none => o.name

/-- Options of two kinds in the order in which they are shown: each stands beside the one of the
other kind that has the same place. -/
def besides : List OptionForm → List OptionForm → List OptionForm
  | [], cs => cs
  | os, [] => os
  | o :: os, c :: cs => (if o.rank ≤ c.rank then [o, c] else [c, o]) ++ besides os cs

def Entry.usage (e : Entry) : String :=
  let required := (e.options.filter fun o => o.required).map fun o => " " ++ o.words
  let words := e.positionals.map fun p => " <" ++ p.1 ++ ">"
  "Usage: " ++ programName ++ " " ++ e.name ++ " [OPTIONS]" ++ String.join (required ++ words)

def Entry.help (e : Entry) : List String :=
  [e.purpose, "", e.usage, "", "Arguments:"] ++
    columns (e.positionals.map fun p => ("<" ++ p.1 ++ ">", p.2)) ++
    [""] ++ optionLines (besides e.options commonOptions ++ [helpOption])

def helpPurpose : String := "Print this message or the help of the given subcommand(s)"

def programHelp : List String :=
  let commands := entries.map fun e => (e.name, e.purpose)
  [programPurpose, "", "Usage: " ++ programName ++ " [OPTIONS] <COMMAND>", "", "Commands:"] ++
    columns (commands ++ [(helpName, helpPurpose)]) ++ [""] ++ optionLines outerForm.options

def helpOnHelp : List String :=
  let word := "[COMMAND]..."
  [helpPurpose, "", "Usage: " ++ programName ++ " " ++ helpName ++ " " ++ word, "", "Arguments:"] ++
    columns [(word, "Print help for the subcommand(s)")]

def helpText (command : Option String) : String :=
  let lines :=
    match command with
    | none => programHelp
    | some name =>
      match entries.find? fun e => e.name == name with
      | some e => e.help
      | none => helpOnHelp
  String.intercalate "\n" lines ++ "\n"

/-! ### Usage faults -/

def UsageFault.message : UsageFault → String
  | .unknownArgument word => "unexpected argument '" ++ word ++ "' found"
  | .unknownCommand word => "unrecognized subcommand '" ++ word ++ "'"
  | .missingCommand => "a subcommand is required"
  | .missingArgument name => "the required argument '" ++ name ++ "' was not provided"
  | .missingValue name => "a value is required for '--" ++ name ++ "' but none was supplied"
  | .unexpectedValue name => "unexpected value for '--" ++ name ++ "' found"
  | .malformedValue name value => "invalid value '" ++ value ++ "' for '--" ++ name ++ "'"
  | .conflict name other =>
    if name = other then "the argument '--" ++ name ++ "' cannot be used multiple times"
    else "the argument '--" ++ name ++ "' cannot be used with '--" ++ other ++ "'"
  | .nothing => helpText none
  | .help command => helpText command
  | .version => versionText

/-- Whether a usage fault is a wish that can be granted. -/
def UsageFault.isWish : UsageFault → Bool
  | .help _ => true
  | .version => true
  | _ => false

/-! ### Running -/

inductive Ending where
  | success
  | usage (fault : UsageFault)
  | failure (fault : CommandFault)
  deriving Repr, DecidableEq

def Ending.status : Ending → Nat
  | .success => 0
  | .usage f => if f.isWish then 0 else 2
  | .failure _ => 1

/-- The report on an ending that is none of the user's making. -/
def Ending.report : Ending → Option String
  | .failure f => some f.report
  | _ => none

/-- Perform an invocation that has been read. -/
def perform (i : Invocation) (e : Environment) (now : Moment) : Session Ending :=
  match i.check with
  | .error f => .done (.failure f)
  | .ok _ =>
    (i.run e now).run.bind fun r =>
      match r with
      | .ok _ => .done .success
      | .error f => .done (.failure f)

/-- The program with the words of its command line, in an environment and at a time. -/
def program (words : List String) (e : Environment) (now : Moment) : Session Ending :=
  match Invocation.read words with
  | .error f =>
    if f.isWish then .print f.message (.done (.usage f)) else .done (.usage f)
  | .ok i => perform i e now

end ObjectStore.Command
