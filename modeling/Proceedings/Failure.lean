import Proceedings.Calendar.Iso
import Proceedings.Files.Store
import Proceedings.Json.Printer
import Proceedings.Json.Reader
import Proceedings.Schema.Basic
import Proceedings.Text.Utf8
import Proceedings.Web.Label.Basic

/-! # Failures

Every way in which an operation can fail, by its cause. A breach is a fault of whoever hands in
data; a delivery that fails carries the name of the artifact and the failure behind it.
-/

namespace Proceedings

/-- Data that does not keep to the contract. -/
inductive Breach where
  | notReading (v : Value)
  | unzoned (d : DateTime)
  | notTimeText (v : Value)
  | badTimeText (v spelled : Value) (e : Iso.ReadError)
  | noOffset (v : Value)
  | notKind (v : Value)
  | eventTime (k : EventKind) (v : Value)
  | eventParticipant (k : EventKind) (v : Value)
  | noResult
  | strayResult (k : EventKind)
  | notObject (what : String) (v : Value)
  | missingKey (what key : String)
  | notNumber (what : String) (v : Value)
  | notArray (what : String) (v : Value)
  | unknownKind (v : Value)
  | required (what : String)
  | notParticipant (v : Value)
  | notEvent (v : Value)
  | notTranscript (v : Value)
  | initialParticipant (v : Value)
  | recordedTime (v : Value)
  | notPublishable (v : Value)
  | badLine (path : Path) (line : Nat) (e : Json.ReadError)

def Breach.message : Breach → Text
  | .notReading v => .ofString s!"expected a datetime, got {v.quoted}"
  | .unzoned d =>
    let shown := String.ofList (d.isoChars 'T')
    .ofString s!"timestamp {shown} has no timezone; use an aware datetime"
  | .notTimeText v => .ofString s!"expected an ISO-8601 string, got {v.quoted}"
  | .badTimeText v spelled e =>
    .ofString s!"invalid timestamp {v.quoted}: {e.message spelled.quoted}"
  | .noOffset v => .ofString s!"timestamp {v.quoted} has no timezone offset"
  | .notKind v => .ofString s!"event_type must be an EventType, got {v.quoted}"
  | .eventTime k v =>
    .ofString s!"{k.name} event requires a datetime timestamp, got {v.quoted}"
  | .eventParticipant k v => .ofString s!"{k.name} event requires a Participant, got {v.quoted}"
  | .noResult => .ofString "SPEECH event requires a TranscriptionResult"
  | .strayResult k => .ofString s!"{k.name} event must not carry a transcription result"
  | .notObject what v => .ofString s!"{what} must be a JSON object, got {v.quoted}"
  | .missingKey what key => .ofString s!"{what} is missing required key '{key}'"
  | .notNumber what v => .ofString s!"{what} must be a number, got {v.quoted}"
  | .notArray what v => .ofString s!"{what} must be a JSON array, got {v.quoted}"
  | .unknownKind v => .ofString s!"unknown event type {v.quoted}"
  | .required what => .ofString s!"{what} is required"
  | .notParticipant v => .ofString s!"expected a Participant, got {v.quoted}"
  | .notEvent v => .ofString s!"expected a TranscriptEvent, got {v.quoted}"
  | .notTranscript v => .ofString s!"expected a Transcript, got {v.quoted}"
  | .initialParticipant v =>
    .ofString s!"initial participant must be a Participant, got {v.quoted}"
  | .recordedTime v =>
    .ofString s!"recorded instants must be timezone-aware datetimes, got {v.quoted}"
  | .notPublishable v =>
    .ofString s!"finalize() needs a Transcript or TranscriptRecorder, got {v.quoted}"
  | .badLine path line e => path.text ++ .ofString s!":{line}: invalid JSON: {e.message}"

/-- What an HTTP client can raise. -/
inductive ClientFault where
  | connect
  | readTimeout
  | protocol
  | invalidUrl
  | unsupportedProtocol
  | type
  | value
  | runtime
  deriving DecidableEq

/-- Why an operation fails. -/
inductive Failure where
  | breach (b : Breach)
  | notKindName (v : Value)
  | dateRange
  | integerRange
  | notIterable (type : String)
  | unhashable (type : String)
  | noAttribute (type name : String)
  | notPath (type : String)
  | invalid (e : Violation)
  | unwritable (e : Json.WriteError)
  | unreadable (e : Json.ReadError)
  | undecodable (e : Utf8.DecodeError)
  | unencodable (e : Utf8.EncodeError)
  | notAscii (e : Utf8.EncodeError)
  | hostName (e : HostFault)
  | file (e : FileError)
  | client (fault : ClientFault) (message : String)
  | undelivered (id reason : Text) (cause : Option Failure)
  | noUrl
  | notConfigured
  | notNumeric (t : Text)
  | notDelivered (id : Text)
  | indexRange

namespace Failure

def message : Failure → Text
  | .breach b => b.message
  | .notKindName v => .ofString s!"{v.quoted} is not a valid EventType"
  | .dateRange => .ofString "date value out of range"
  | .integerRange => .ofString "int too large to convert to float"
  | .notIterable type => .ofString s!"'{type}' object is not iterable"
  | .unhashable type => .ofString s!"unhashable type: '{type}'"
  | .noAttribute type name => .ofString s!"'{type}' object has no attribute '{name}'"
  | .notPath type => .ofString s!"expected str, bytes or os.PathLike object, not {type}"
  | .invalid e => .ofString e.message
  | .unwritable e => .ofString e.message
  | .unreadable e => .ofString e.message
  | .undecodable e => .ofString e.message
  | .unencodable e => .ofString e.message
  | .notAscii e => .ofString e.asciiMessage
  | .hostName e => .ofString e.message
  | .file e => .ofString e.message
  | .client _ message => .ofString message
  | .undelivered id reason _ =>
    .ofString "Failed to deliver transcript " ++ id ++ .ofString ": " ++ reason
  | .noUrl => .ofString "WebhookSink requires a URL"
  | .notConfigured => .ofString
    "Transcript webhook not configured. Add TRANSCRIPT_WEBHOOK_URL to the .env file."
  | .notNumeric t => .ofString s!"could not convert string to float: {t.quoted}"
  | .notDelivered id => .ofString id.quoted
  | .indexRange => .ofString "list index out of range"

/-- The message at length: a violation names the keyword too. -/
def report : Failure → Text
  | .invalid e => .ofString e.report
  | f => f.message

end Failure

/-- A JSON text or why there is none. -/
def serialize (v : Value) : Except Failure Text :=
  (Json.serialize v).mapError .unwritable

end Proceedings
