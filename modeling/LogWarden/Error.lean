import LogWarden.Json.Document
import LogWarden.Number.DecimalText
import LogWarden.Text

/-! # Errors

Every concern has a type of the causes of its errors, and one function that words them. Errors of the
configuration end the program before it starts; all others concern one line, one consumer or one
action. -/

namespace LogWarden

/-- The decimal text of a natural number. -/
def natText (n : Nat) : String :=
  String.ofList (decimalDigits n)

/-- Why the program cannot be set up. -/
inductive ConfigError
  /-- A file cannot be read or written; `cause` is the system's wording. -/
  | io (path cause : String)
  | malformed (path : String) (fault : JsonFault)
  | invalidPattern (kind reason : String)
  | duplicateKind (kind : String)
  | duplicatePayload (payload kind : String)
  | noIngestionSource
  | unknownEncoding (label : String)
  | invalidTrigger (index : Nat) (reason : String)
  deriving DecidableEq, Repr

/-- The name of a fault. -/
def JsonFault.name : JsonFault → String
  | .ended => "eof"
  | .malformed => "syntax"
  | .mismatched => "data"

/-- What is wrong with a document. -/
def JsonFault.message : JsonFault → String
  | .ended => "the text ends early"
  | .malformed => "the text is not JSON"
  | .mismatched => "a value is missing or of the wrong type"

/-- The name of a cause. -/
def ConfigError.name : ConfigError → String
  | .io .. => "Io"
  | .malformed .. => "Malformed"
  | .invalidPattern .. => "InvalidPattern"
  | .duplicateKind .. => "DuplicateKind"
  | .duplicatePayload .. => "DuplicatePayload"
  | .noIngestionSource => "NoIngestionSource"
  | .unknownEncoding .. => "UnknownEncoding"
  | .invalidTrigger .. => "InvalidTrigger"

def ConfigError.message : ConfigError → String
  | .io path cause => "Failed to read " ++ path ++ ": " ++ cause
  | .malformed path fault => "Malformed JSON in " ++ path ++ ": " ++ fault.message
  | .invalidPattern kind reason =>
    "Invalid pattern for event kind '" ++ kind ++ "': " ++ reason
  | .duplicateKind kind => "Event kind '" ++ kind ++ "' is already registered"
  | .duplicatePayload payload kind =>
    "Payload type " ++ payload ++ " is already bound to event kind '" ++ kind ++ "'"
  | .noIngestionSource => "No ingestion source registered"
  | .unknownEncoding label => "Unknown text encoding '" ++ label ++ "'"
  | .invalidTrigger index reason => "Invalid trigger rule #" ++ natText index ++ ": " ++ reason

/-- Why a match yields no event. -/
inductive ClassifyError
  /-- The groups of the match are not the fields that the rule declares. -/
  | fieldMismatch (kind : String) (expected actual : List String)
  | unregisteredKind (kind : String)
  | missingField (kind field : String)
  | invalidField (kind field value : String)
  deriving DecidableEq, Repr

/-- The name of a cause. -/
def ClassifyError.name : ClassifyError → String
  | .fieldMismatch .. => "FieldMismatch"
  | .unregisteredKind .. => "UnregisteredKind"
  | .missingField .. => "MissingField"
  | .invalidField .. => "InvalidField"

def ClassifyError.message : ClassifyError → String
  | .fieldMismatch kind expected actual =>
    "Event '" ++ kind ++ "' captured fields " ++ Text.quoteList actual ++ ", expected "
      ++ Text.quoteList expected
  | .unregisteredKind kind => "Event kind '" ++ kind ++ "' is not registered"
  | .missingField kind field => "Event '" ++ kind ++ "' is missing field '" ++ field ++ "'"
  | .invalidField kind field value =>
    "Event '" ++ kind ++ "' field '" ++ field ++ "' has invalid value '" ++ value ++ "'"

/-- Why a source cannot give its next line. -/
inductive SourceError
  | fileMissing (path : String)
  | io (target cause : String)
  | connectionFailed (addr reason : String)
  deriving DecidableEq, Repr

namespace SourceError

/-- The name of a cause. -/
def name : SourceError → String
  | .fileMissing _ => "FileMissing"
  | .io .. => "Io"
  | .connectionFailed .. => "ConnectionFailed"

def message : SourceError → String
  | .fileMissing path => "Log file not found: " ++ path
  | .io target cause => "I/O error on " ++ target ++ ": " ++ cause
  | .connectionFailed addr reason => "Connection to " ++ addr ++ " failed: " ++ reason

/-- Whether trying again may help. -/
def isRetryable : SourceError → Bool
  | .connectionFailed .. => true
  | _ => false

end SourceError

/-- Why a command cannot be built. -/
inductive CommandError
  | emptyContent
  | emptyRecipient
  | emptyLandName
  | nonPositiveAmount (amount : Int)
  | outOfOrder (operation requires : String)
  | incomplete (command : String)
  | notAllowed (action method : String)
  | invalidArgument (method reason : String)
  deriving DecidableEq, Repr

/-- The name of a cause. -/
def CommandError.name : CommandError → String
  | .emptyContent => "EmptyContent"
  | .emptyRecipient => "EmptyRecipient"
  | .emptyLandName => "EmptyLandName"
  | .nonPositiveAmount .. => "NonPositiveAmount"
  | .outOfOrder .. => "OutOfOrder"
  | .incomplete .. => "Incomplete"
  | .notAllowed .. => "NotAllowed"
  | .invalidArgument .. => "InvalidArgument"

def CommandError.message : CommandError → String
  | .emptyContent => "Chat content cannot be empty"
  | .emptyRecipient => "Recipient cannot be empty"
  | .emptyLandName => "Land name cannot be empty"
  | .nonPositiveAmount amount =>
    "Amount must be positive, got " ++ String.ofList (intText amount)
  | .outOfOrder operation requires =>
    "'" ++ operation ++ "' requires a preceding '" ++ requires ++ "'"
  | .incomplete command => "Sub-command is not set for '" ++ command ++ "'"
  | .notAllowed action method =>
    "Method '" ++ method ++ "' is not exported by action '" ++ action ++ "'"
  | .invalidArgument method reason => "Invalid argument for '" ++ method ++ "': " ++ reason

/-- Why an action or a chain of actions fails. Times are in milliseconds. -/
inductive ActionError
  | failed (action reason : String)
  | panicked (action : String)
  | timeout (ms : Nat)
  | chainTimeout (ms : Nat)
  | queueClosed
  | command (e : CommandError)
  deriving DecidableEq, Repr

namespace ActionError

/-- The name of a cause; that of a command's error is its own. -/
def name : ActionError → String
  | .failed .. => "Failed"
  | .panicked .. => "Panicked"
  | .timeout .. => "Timeout"
  | .chainTimeout .. => "ChainTimeout"
  | .queueClosed => "QueueClosed"
  | .command e => e.name

def message : ActionError → String
  | .failed action reason => "Action '" ++ action ++ "' failed: " ++ reason
  | .panicked action => "Action '" ++ action ++ "' panicked"
  | .timeout ms => "Timed out after " ++ natText ms ++ "ms waiting for action"
  | .chainTimeout ms => "Action chain timed out after " ++ natText ms ++ "ms"
  | .queueClosed => "Action queue is closed"
  | .command e => e.message

/-- Whether trying again may help. -/
def isRetryable : ActionError → Bool
  | .timeout _ | .chainTimeout _ => true
  | _ => false

end ActionError

/-- Why a consumer of events fails. -/
inductive HandlerError
  /-- The consumer asks the program to stop. -/
  | terminate (reason : String)
  | action (e : ActionError)
  | command (e : CommandError)
  | other (text : String)
  deriving DecidableEq, Repr

namespace HandlerError

/-- The name of a cause; that of an action's or a command's error is its own. -/
def name : HandlerError → String
  | .terminate _ => "Terminate"
  | .action e => e.name
  | .command e => e.name
  | .other _ => "Other"

def message : HandlerError → String
  | .terminate reason => "Terminate requested: " ++ reason
  | .action e => e.message
  | .command e => e.message
  | .other text => text

def isTerminate : HandlerError → Bool
  | .terminate _ => true
  | _ => false

end HandlerError

/-- An error of any concern. -/
inductive Error
  | config (e : ConfigError)
  | source (e : SourceError)
  | action (e : ActionError)
  | handler (e : HandlerError)
  deriving DecidableEq, Repr

namespace Error

def message : Error → String
  | .config e => "Configuration error: " ++ e.message
  | .source e => "Ingestion error: " ++ e.message
  | .action e => "Action error: " ++ e.message
  | .handler e => "Handler error: " ++ e.message

def isConfig : Error → Bool
  | .config _ => true
  | _ => false

/-- Whether the error asks the program to stop. -/
def isTerminate : Error → Bool
  | .handler e => e.isTerminate
  | _ => false

/-- Whether trying again may help. -/
def isRetryable : Error → Bool
  | .config _ | .handler _ => false
  | .source e => e.isRetryable
  | .action e => e.isRetryable

end Error

end LogWarden
