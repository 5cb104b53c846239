import Proceedings.Main
import Proceedings.Session
import Proceedings.Proofs.Recorder.Chronology
import Proceedings.Proofs.Replay.Live
import Proceedings.Proofs.Session.Publication
import Proceedings.Proofs.Wire.Artifact
import Proceedings.Proofs.Wire.Malformed
import Proceedings.Proofs.Wire.RoundTrip
import Proceedings.Proofs.Wire.Normal
import Proceedings.Proofs.Json.Grammar
import Proceedings.Proofs.Json.Scalar
import Proceedings.Proofs.Json.Quotes
import Proceedings.Proofs.Json.Reader
import Proceedings.Proofs.Json.Characters
import Proceedings.Proofs.Replay.Formats
import Proceedings.Proofs.Files.Rewriting
import Proceedings.Proofs.CommandLine.Formats
import Proceedings.Proofs.Json.Content
import Proceedings.Proofs.CommandLine.Arguments
import Proceedings.Proofs.Replay.Loading
import Proceedings.Proofs.Replay.Artifact
import Proceedings.Proofs.CommandLine.Publication
import Proceedings.Proofs.Wire.Grammar
import Proceedings.Proofs.Wire.Input
import Proceedings.Proofs.Wire.Faithful
import Proceedings.Proofs.Json.Written
import Proceedings.Proofs.Wire.Stable
import Proceedings.Proofs.Sink.Archive
import Proceedings.Proofs.Replay.Arrival
import Proceedings.Proofs.Session.Frame
import Proceedings.Proofs.Json.Proper
import Proceedings.Proofs.Json.Writable
import Proceedings.Proofs.Wire.Proper
import Proceedings.Proofs.Recorder.Snapshots
import Proceedings.Proofs.Recorder.Refusal
import Proceedings.Proofs.Session.Timekeeping
import Proceedings.Proofs.Replay.Bounds
import Proceedings.Proofs.Session.Stamps
import Proceedings.Proofs.Sends
import Proceedings.Proofs.Wire.Spelling
import Proceedings.Proofs.Sink.Failure
import Proceedings.Proofs.Artifact
import Proceedings.Proofs.Emptiness
