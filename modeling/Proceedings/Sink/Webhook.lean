import Proceedings.Outcome
import Proceedings.Web.Address

/-! # Webhook sink

Posts each artifact to one web address, with one request and no second try. A delivery fails if no
response comes back or if its status is an error. The sink uses the client that it is given, or one
that it makes for the delivery and closes afterwards.
-/

namespace Proceedings

structure Request where
  method : String
  url : String
  body : Text

inductive Reply where
  | response (status : Int) (text : String)
  | fault (f : ClientFault) (message : String)

/-- The network as HTTP clients see it: the reply to each request; the posts that were asked for and
the requests that were sent for them; the clients that were made and closed for single
deliveries. -/
structure Network where
  replies : Nat → Reply
  posts : Nat
  sent : List Request
  opened : Nat
  closed : Nat

def Network.new (replies : Nat → Reply) : Network := ⟨replies, 0, [], 0, 0⟩

/-- A network in which no connection can be made. -/
def Network.down (message : String) : Network := .new fun _ => .fault .connect message

def Network.send (n : Network) (q : Request) : Network × Except Failure (Int × String) :=
  ({ n with sent := n.sent ++ [q] },
    match n.replies n.sent.length with
    | .response status text => .ok (status, text)
    | .fault f message => .error (.client f message))

/-- A sink that posts to a web address. -/
structure Webhook where
  url : String
  /-- Whether the sink makes its own clients. -/
  ownClient : Bool

namespace Webhook

variable (w : Webhook)

/-- The sink for an address, which must not be empty. -/
def make (url : String) (ownClient : Bool) : Except Failure Webhook :=
  if url.isEmpty then .error .noUrl else .ok ⟨url, ownClient⟩

/-- The body of the request for an artifact. -/
def body (id : Text) (payload : Value) : Except Failure Text := do
  let v := .object [(Text.ofString "artifact_id", .text id), (Text.ofString "transcript", payload)]
  let t ← (Json.write Json.wireLayout 0 v).mapError .unwritable
  let _ ← (Utf8.encode t).mapError .unencodable
  return t

/-- The request for an artifact. The body is written before the host is looked at. -/
def request (a : Address) (id : Text) (payload : Value) : Except Failure Request := do
  let t ← body id payload
  if let some e := a.hostFault? then .error (.hostName e)
  if let some e := a.placeFault? then .error (.notAscii e)
  return ⟨"POST", a.text, t⟩

/-- Why a client of the sink's own cannot connect to an address. A client that is given goes by its
own rules. -/
def unreachable? (a : Address) : Option String :=
  if w.ownClient then a.unreachable? else none

def exchange (a : Address) (q : Request) (n : Network) :
    Network × Except Failure (Int × String) :=
  match n.send q, a.unknown? with
  | (n, .ok _), some message => (n, .error (.client .value message))
  | answer, _ => answer

/-- Posts an artifact, given how addresses are read. A malformed address is found before the body is
written, and one that cannot be reached after that. -/
def postBy (read : String → Except AddressFault Address) (id : Text) (payload : Value)
    (n : Network) : Network × Except Failure (Int × String) :=
  let n := { n with posts := n.posts + 1 }
  match read w.url with
  | .error e => (n, .error (.client .invalidUrl e.message))
  | .ok a => match request a id payload with
    | .error f => (n, .error f)
    | .ok q => match w.unreachable? a with
      | some message => (n, .error (.client .unsupportedProtocol message))
      | none => exchange a q n

def post : Text → Value → Network → Network × Except Failure (Int × String) :=
  w.postBy Address.ofString

/-- The network once a client for a delivery is made. -/
def opening (n : Network) : Network :=
  if w.ownClient then { n with opened := n.opened + 1 } else n

/-- The network once the client for a delivery is closed. -/
def closing (n : Network) : Network :=
  if w.ownClient then { n with closed := n.closed + 1 } else n

/-- The failure of a delivery to which no response came. A fault of the program itself is none. -/
def unanswered (id : Text) (f : Failure) : Failure :=
  match f with
  | .client .runtime _ => f
  | f => .undelivered id (.ofString s!"request to {w.url} failed: " ++ f.message) (some f)

/-- The failure of a delivery that was refused. The reason quotes the start of the response. -/
def refused (id : Text) (status : Int) (text : String) : Failure :=
  let start := String.ofList (text.toList.take 200)
  .undelivered id (.ofString s!"{w.url} responded {status}: {start}") none

def persist (id : Text) (payload : Value) (n : Network) : Outcome Network Unit :=
  let (n, answer) := w.post id payload (w.opening n)
  let n := w.closing n
  match answer with
  | .error f => .failed n (w.unanswered id f)
  | .ok (status, text) =>
    if 400 ≤ status then .failed n (w.refused id status text)
    else ⟨n, [⟨.info, .ofString "Delivered transcript " ++ id ++
      .ofString s!" to {w.url} ({status})"⟩], .ok ()⟩

end Webhook

end Proceedings
