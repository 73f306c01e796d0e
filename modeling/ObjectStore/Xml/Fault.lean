import ObjectStore.Text.Number
import ObjectStore.Text.Utf8
import ObjectStore.Text.Quoted
/-!
# Faults of documents

Why a byte string is not the document that a reader expects.  The causes of one level of
reading are one type; `message` gives the wording.
-/

namespace ObjectStore.Xml

inductive Construct where
  | cdata
  | comment
  | doctype
  | instruction
  | tag
  deriving Repr, DecidableEq

def Construct.message : Construct → String
  | .cdata => "CDATA not closed: `]]>` not found before end of input"
  | .comment => "comment not closed: `-->` not found before end of input"
  | .doctype => "DOCTYPE not closed: `>` not found before end of input"
  | .instruction =>
    "processing instruction or xml declaration not closed: `?>` not found before end of input"
  | .tag => "tag not closed: `>` not found before end of input"

/-- Why a numeric character reference denotes no character. -/
inductive ReferenceFault where
  | sign
  | number (fault : Text.NumberFault)
  | zero
  | notScalar (code : Nat)
  deriving Repr, DecidableEq

def ReferenceFault.message : ReferenceFault → String
  | .sign => "unexpected number sign"
  | .number fault => fault.message
  | .zero => "0x0 character is not permitted in XML"
  | .notScalar code => s!"`{code}` is not a valid codepoint"

/-- Why a byte string is not the expected document. -/
inductive Fault where
  | unknownMarkup
  | unclosed (what : Construct)
  | unnamedDoctype
  | mismatchedEnd (expected found : String)
  | unmatchedEnd (name : String)
  | textNotUtf8 (fault : Text.Utf8.Fault)
  | notUtf8 (fault : Text.Utf8.Fault)
  | openReference (first last : Nat)
  | unknownEntity (first last : Nat) (name : String)
  | badReference (fault : ReferenceFault)
  | cutOff
  | noRoot (expected : String)
  | wrongRoot (expected found : String)
  | badNumber (element text : String)
  | noUploadId
  | noErrorCode
  | unknownPayer (text : String)
  /-- Rejected by a reader outside this library, for the reason given. -/
  | rejected (reason : String)
  deriving Repr, DecidableEq

def Fault.message : Fault → String
  | .unknownMarkup => "syntax error: unknown or missed symbol in markup"
  | .unclosed what => "syntax error: " ++ what.message
  | .unnamedDoctype =>
    "ill-formed document: `<!DOCTYPE>` declaration does not contain a name of a document type"
  | .mismatchedEnd expected found =>
    s!"ill-formed document: expected `</{expected}>`, but `</{found}>` was found"
  | .unmatchedEnd name =>
    s!"ill-formed document: close tag `</{name}>` does not match any open tag"
  | .textNotUtf8 fault => "Malformed UTF-8 input: " ++ fault.message
  | .notUtf8 fault => "invalid UTF-8: " ++ fault.message
  | .openReference first last =>
    s!"Error while escaping character at range {first}..{last}: Cannot find ';' after '&'"
  | .unknownEntity first last name => s!"at {first}..{last}: unrecognized entity `{name}`"
  | .badReference fault => "invalid character reference: " ++ fault.message
  | .cutOff => "document ended before its root element closed"
  | .noRoot expected => s!"empty document, expected <{expected}>"
  | .wrongRoot expected found => s!"expected <{expected}>, found <{found}>"
  | .badNumber element text => s!"invalid <{element}> value: " ++ Text.quoted text
  | .noUploadId => "missing UploadId in response"
  | .noErrorCode => "error document without <Code>"
  | .unknownPayer text => "unknown payer " ++ Text.quoted text
  | .rejected reason => reason

end ObjectStore.Xml
