import Mathlib
import Proceedings.Proofs.Answer
import Proceedings.Proofs.Demand
import Proceedings.Proofs.Web.Address
import Proceedings.Sink.Webhook

/-! # What a webhook posts

A delivery to a webhook asks a client for one post, whatever comes of it. It succeeds if a response
comes back that is no error, and otherwise fails under the name of its artifact. A client that was
made for the delivery is closed again. So guards that publish to webhooks ask for no more posts
than there are guards that have been taken.
-/

namespace Proceedings

/-- No reply is a fault of the program itself. -/
def Network.IsOrderly (n : Network) : Prop := ∀ k message, n.replies k ≠ .fault .runtime message

/-- An HTTP client, by what it makes of the post of an artifact. It may answer each post as it
likes; it neither makes nor closes clients. -/
structure Client where
  post : Text → Value → Network → Network × Except Failure (Int × String)
  posts_post : ∀ id payload n, (post id payload n).1.posts = n.posts + 1
  opened_post : ∀ id payload n, (post id payload n).1.opened = n.opened
  closed_post : ∀ id payload n, (post id payload n).1.closed = n.closed

attribute [simp] Client.posts_post Client.opened_post Client.closed_post

namespace Webhook

variable (w : Webhook) {c : Client} {id : Text} {payload : Value} {n : Network}

section Delivery

def conclude (id : Text) (n : Network) : Except Failure (Int × String) → Outcome Network Unit
  | .error f => .failed n (w.unanswered id f)
  | .ok (status, text) =>
    if 400 ≤ status then .failed n (w.refused id status text)
    else ⟨n, [⟨.info, .ofString "Delivered transcript " ++ id ++
      .ofString s!" to {w.url} ({status})"⟩], .ok ()⟩

def persistBy (c : Client) (id : Text) (payload : Value) (n : Network) : Outcome Network Unit :=
  let (n, answer) := c.post id payload (w.opening n)
  w.conclude id (w.closing n) answer

def persistAllBy (c : Client) : List (Text × Value) → Network → Network
  | [], n => n
  | (id, payload) :: rest, n => persistAllBy c rest (w.persistBy c id payload n).state

/-- The number of clients that the sink makes for a delivery. -/
def clients : Nat := if w.ownClient then 1 else 0

/-- A post was answered, by a response or by an error that a client is known to raise. -/
def IsExpected (answer : Except Failure (Int × String)) : Prop :=
  ∀ message, answer ≠ .error (.client .runtime message)

/-- What a delivery comes to, by the answer to its post. -/
structure Delivers (id : Text) (answer : Except Failure (Int × String)) (n : Network)
    (o : Outcome Network Unit) : Prop where
  posts : o.state.posts = n.posts + 1
  opened : o.state.opened = n.opened + w.clients
  closed : o.state.closed = n.closed + w.clients
  answer_ok_iff : o.answer = .ok () ↔ ∃ status text, answer = .ok (status, text) ∧ status < 400
  answer_error : IsExpected answer → ∀ f, o.answer = .error f →
    ∃ reason cause, f = .undelivered id reason cause ∧ ∀ g, cause = some g ↔ answer = .error g

theorem opening_eq : w.opening n = { n with opened := n.opened + w.clients } := by
  unfold opening clients
  split <;> rfl

theorem closing_eq : w.closing n = { n with closed := n.closed + w.clients } := by
  unfold closing clients
  split <;> rfl

@[simp] theorem conclude_state (answer : Except Failure (Int × String)) :
    (w.conclude id n answer).state = n := by
  unfold conclude
  split
  · rfl
  · split <;> rfl

theorem conclude_answer_ok_iff (answer : Except Failure (Int × String)) :
    (w.conclude id n answer).answer = .ok () ↔
      ∃ status text, answer = .ok (status, text) ∧ status < 400 := by
  rcases answer with f | ⟨status, text⟩
  · simp [conclude, Outcome.failed]
  · by_cases h : 400 ≤ status
    · simp [conclude, Outcome.failed, h]
    · simp [conclude, h, Int.not_le.mp h]

theorem unanswered_eq {f : Failure} (h : ∀ message, f ≠ .client .runtime message) :
    w.unanswered id f =
      .undelivered id (.ofString s!"request to {w.url} failed: " ++ f.message) (some f) := by
  unfold unanswered
  split
  · next message => exact absurd rfl (h message)
  · rfl

/-- A delivery that fails is called undelivered, and has the error of the client as its cause if
there was one. -/
theorem conclude_answer_error {answer : Except Failure (Int × String)} (h : IsExpected answer)
    {f : Failure} (hf : (w.conclude id n answer).answer = .error f) :
    ∃ reason cause, f = .undelivered id reason cause ∧ ∀ g, cause = some g ↔ answer = .error g := by
  rcases answer with e | ⟨status, text⟩
  · have he : ∀ message, e ≠ .client .runtime message := fun message heq => h message (heq ▸ rfl)
    rw [conclude, unanswered_eq w he] at hf
    obtain rfl := Except.error.inj hf
    exact ⟨_, some e, rfl, fun g => by simp⟩
  · by_cases hstatus : 400 ≤ status
    · rw [conclude, if_pos hstatus] at hf
      obtain rfl := Except.error.inj hf
      exact ⟨_, none, rfl, fun g => by simp⟩
    · rw [conclude, if_neg hstatus] at hf
      cases hf

theorem level_of_mem_conclude {answer : Except Failure (Int × String)} {line : LogLine}
    (h : line ∈ (w.conclude id n answer).log) : line.level = .info := by
  rcases answer with e | ⟨status, text⟩
  · cases h
  · by_cases hstatus : 400 ≤ status
    · rw [conclude, if_pos hstatus] at h
      cases h
    · rw [conclude, if_neg hstatus] at h
      rw [List.mem_singleton.mp h]

theorem delivers_persistBy (c : Client) (id : Text) (payload : Value) (n : Network) :
    w.Delivers id (c.post id payload (w.opening n)).2 n (w.persistBy c id payload n) where
  posts := by simp [persistBy, opening_eq, closing_eq]
  opened := by simp [persistBy, opening_eq, closing_eq]
  closed := by simp [persistBy, opening_eq, closing_eq]
  answer_ok_iff := w.conclude_answer_ok_iff _
  answer_error h _ := w.conclude_answer_error h

theorem persistAllBy_counts (c : Client) (deliveries : List (Text × Value)) (n : Network) :
    (w.persistAllBy c deliveries n).posts = n.posts + deliveries.length ∧
      (w.persistAllBy c deliveries n).opened = n.opened + deliveries.length * w.clients ∧
      (w.persistAllBy c deliveries n).closed = n.closed + deliveries.length * w.clients := by
  induction deliveries generalizing n with
  | nil => simp [persistAllBy]
  | cons d rest ih =>
    obtain ⟨id, payload⟩ := d
    obtain ⟨hposts, hopened, hclosed⟩ := ih (w.persistBy c id payload n).state
    have h := w.delivers_persistBy c id payload n
    simp only [persistAllBy, hposts, hopened, hclosed, h.posts, h.opened, h.closed,
      List.length_cons, Nat.add_mul]
    omega

end Delivery

section Post

theorem body_eq_error {f : Failure} (h : body id payload = .error f) :
    (∃ e, f = .unwritable e) ∨ ∃ e, f = .unencodable e := by
  rcases bind_eq_error.mp h with h | ⟨t, -, h⟩
  · obtain ⟨e, -, rfl⟩ := mapError_eq_error.mp h
    exact .inl ⟨e, rfl⟩
  · rcases bind_eq_error.mp h with h | ⟨bytes, -, h⟩
    · obtain ⟨e, -, rfl⟩ := mapError_eq_error.mp h
      exact .inr ⟨e, rfl⟩
    · cases h

/-- A request is refused for what it says or where it goes, and not by a fault of the program. -/
theorem ne_runtime_of_request {a : Address} {f : Failure} (h : request a id payload = .error f)
    (message : String) : f ≠ .client .runtime message := by
  rcases bind_eq_error.mp h with h | ⟨t, -, h⟩
  · rcases body_eq_error h with ⟨e, rfl⟩ | ⟨e, rfl⟩ <;> simp
  · cases hhost : a.hostFault? with
    | some e =>
      rw [hhost] at h
      obtain rfl := Except.error.inj h
      simp
    | none =>
      cases hplace : a.placeFault? with
      | some e =>
        rw [hhost, hplace] at h
        obtain rfl := Except.error.inj h
        simp
      | none =>
        rw [hhost, hplace] at h
        cases h

theorem exchange_fst (a : Address) (q : Request) (n : Network) :
    (exchange a q n).1 = { n with sent := n.sent ++ [q] } := by
  unfold exchange Network.send
  split <;> simp_all

theorem isExpected_exchange (a : Address) (q : Request) (hn : n.IsOrderly) :
    IsExpected (exchange a q n).2 := by
  intro message h
  unfold exchange Network.send at h
  cases hreply : n.replies n.sent.length with
  | response status text =>
    rw [hreply] at h
    cases hunknown : a.unknown? <;> simp [hunknown] at h
  | fault f text =>
    rw [hreply] at h
    obtain ⟨rfl, rfl⟩ : f = .runtime ∧ text = message := by simpa using h
    exact hn _ _ hreply

variable (read : String → Except AddressFault Address)

theorem postBy_cases (id : Text) (payload : Value) (n : Network) :
    (∃ f, (∀ message, f ≠ .client .runtime message) ∧
      w.postBy read id payload n = ({ n with posts := n.posts + 1 }, .error f)) ∨
    ∃ a q, read w.url = .ok a ∧ request a id payload = .ok q ∧ w.unreachable? a = none ∧
      w.postBy read id payload n = exchange a q { n with posts := n.posts + 1 } := by
  unfold postBy
  cases ha : read w.url with
  | error e => exact .inl ⟨_, by simp, rfl⟩
  | ok a =>
    dsimp only
    cases hq : request a id payload with
    | error f => exact .inl ⟨f, ne_runtime_of_request hq, rfl⟩
    | ok q =>
      cases hreach : w.unreachable? a with
      | some message => exact .inl ⟨_, by simp, rfl⟩
      | none => exact .inr ⟨a, q, rfl, hq, hreach, rfl⟩

/-- What a post leaves behind: it is noted as one, and sends one request, or none if the artifact
has no body. -/
theorem postBy_fst (id : Text) (payload : Value) (n : Network) :
    ∃ sent : List Request, sent.length ≤ 1 ∧ (∀ f, body id payload = .error f → sent = []) ∧
      (w.postBy read id payload n).1 =
        { n with posts := n.posts + 1, sent := n.sent ++ sent } := by
  rcases w.postBy_cases read id payload n with ⟨f, -, h⟩ | ⟨a, q, -, hq, -, h⟩
  · exact ⟨[], by simp, fun _ _ => rfl, by simp [h]⟩
  · obtain ⟨t, ht, -⟩ := bind_eq_ok.mp hq
    exact ⟨[q], by simp, fun f hf => by simp [ht] at hf, by simp [h, exchange_fst]⟩

theorem isExpected_postBy (id : Text) (payload : Value) (hn : n.IsOrderly) :
    IsExpected (w.postBy read id payload n).2 := by
  rcases w.postBy_cases read id payload n with ⟨f, hf, h⟩ | ⟨a, q, -, -, -, h⟩
  · intro message heq
    rw [h] at heq
    exact hf message (Except.error.inj heq)
  · rw [h]
    exact isExpected_exchange a q hn

theorem eq_of_request {a : Address} {q : Request} (h : request a id payload = .ok q) :
    ∃ t, body id payload = .ok t ∧ q = ⟨"POST", a.text, t⟩ := by
  obtain ⟨t, ht, h⟩ := bind_eq_ok.mp h
  cases hhost : a.hostFault? with
  | some e =>
    rw [hhost] at h
    cases h
  | none =>
    cases hplace : a.placeFault? with
    | some e =>
      rw [hhost, hplace] at h
      cases h
    | none =>
      rw [hhost, hplace] at h
      exact ⟨t, ht, (Except.ok.inj h).symm⟩

variable {read}

/-- Whatever reads addresses, a client of the sink's own sends nothing, or posts the body to a host,
by a scheme that clients speak. The address of the sink then has visible characters only. -/
theorem sent_postBy (hread : Address.IsReader read) (hown : w.ownClient = true) (id : Text)
    (payload : Value) (n : Network) :
    (w.postBy read id payload n).1.sent = n.sent ∨
      ∃ (a : Address) (t : Text), read w.url = .ok a ∧ body id payload = .ok t ∧
        Address.schemes.contains (String.ofList a.scheme) = true ∧ a.host ≠ [] ∧
        (∀ c ∈ w.url.toList, Address.IsVisible c) ∧
        (w.postBy read id payload n).1.sent = n.sent ++ [⟨"POST", a.text, t⟩] := by
  rcases w.postBy_cases read id payload n with ⟨f, -, h⟩ | ⟨a, q, ha, hq, hreach, h⟩
  · exact .inl (by rw [h])
  · right
    obtain ⟨t, ht, rfl⟩ := eq_of_request hq
    rw [unreachable?, if_pos hown] at hreach
    obtain ⟨hscheme, hspoken⟩ := Address.unreachable?_eq_none hreach
    exact ⟨a, t, ha, ht, hspoken, hread.host _ _ ha hscheme, hread.visible _ _ ha,
      by rw [h, exchange_fst]⟩

def clientBy (read : String → Except AddressFault Address) : Client where
  post := w.postBy read
  posts_post id payload n := by
    obtain ⟨sent, -, -, h⟩ := w.postBy_fst read id payload n
    rw [h]
  opened_post id payload n := by
    obtain ⟨sent, -, -, h⟩ := w.postBy_fst read id payload n
    rw [h]
  closed_post id payload n := by
    obtain ⟨sent, -, -, h⟩ := w.postBy_fst read id payload n
    rw [h]

def client : Client := w.clientBy Address.ofString

theorem persist_eq_persistBy : w.persist = w.persistBy w.client := rfl

theorem persist_sent (id : Text) (payload : Value) (n : Network) :
    ∃ sent : List Request, sent.length ≤ 1 ∧ (∀ f, body id payload = .error f → sent = []) ∧
      (w.persist id payload n).state.sent = n.sent ++ sent := by
  obtain ⟨sent, hone, hbody, h⟩ := w.postBy_fst Address.ofString id payload (w.opening n)
  refine ⟨sent, hone, hbody, ?_⟩
  simp only [persist_eq_persistBy, persistBy, conclude_state, closing_eq, client, clientBy, h]
  rw [opening_eq]

theorem level_of_mem_persist {line : LogLine} (h : line ∈ (w.persist id payload n).log) :
    line.level = .info :=
  w.level_of_mem_conclude h

end Post

end Webhook

/-- A guard with the webhook that it publishes to, and the client that the webhook posts by. -/
structure Poster where
  guard : Guard
  webhook : Webhook
  client : Client

namespace Poster

def finalize (u : Poster) (subject : Submission) (n : Network) : Poster × Network :=
  let o := u.guard.finalize (u.webhook.persistBy u.client) subject n
  ({ u with guard := o.state.1 }, o.state.2)

def finalizeAt (number : Nat) (subject : Submission) (s : List Poster × Network) :
    List Poster × Network :=
  match s.1[number]? with
  | some u => (s.1.set number (u.finalize subject s.2).1, (u.finalize subject s.2).2)
  | none => s

def finalizeAll : List (Nat × Submission) → List Poster × Network → List Poster × Network
  | [], s => s
  | (number, subject) :: rest, s => finalizeAll rest (finalizeAt number subject s)

def published (posters : List Poster) : Nat := posters.countP (·.guard.isPublished)

/-- A guard asks for a post only if it is taken by that. -/
theorem posts_finalize_le (u : Poster) (subject : Submission) (n : Network) :
    (u.finalize subject n).2.posts + u.guard.isPublished.toNat ≤
      n.posts + (u.finalize subject n).1.guard.isPublished.toNat := by
  unfold finalize
  dsimp only
  cases ht : subject.transcript with
  | error f => simp [Guard.finalize_of_refused ht, Outcome.failed]
  | ok t =>
    cases hg : u.guard.state with
    | published => simp [(Guard.finalize_of_published _ n ht hg).1]
    | pending =>
      rw [(Guard.finalize_of_pending _ n ht hg).1]
      cases hp : u.guard.formatter.payload t with
      | error f => simp [Guard.deliver_of_error hp, Outcome.failed, Guard.isPublished, hg]
      | ok payload =>
        simp [Guard.deliver_of_ok hp, Guard.isPublished, hg,
          (u.webhook.delivers_persistBy u.client u.guard.artifactId payload n).posts]

theorem posts_finalizeAt_le (number : Nat) (subject : Submission) (s : List Poster × Network) :
    (finalizeAt number subject s).2.posts + published s.1 ≤
      s.2.posts + published (finalizeAt number subject s).1 := by
  unfold finalizeAt
  split
  · next u hu =>
    obtain ⟨hnumber, rfl⟩ := List.getElem?_eq_some_iff.mp hu
    have hstep := s.1[number].posts_finalize_le subject s.2
    -- the guard with this number is the only one whose part of the count can change
    have hone := List.boole_getElem_le_countP (p := (·.guard.isPublished)) hnumber
    simp only [published, List.countP_set hnumber, Bool.toNat, Bool.cond_eq_ite] at *
    omega
  · exact le_rfl

theorem posts_finalizeAll_le (calls : List (Nat × Submission)) (s : List Poster × Network) :
    (finalizeAll calls s).2.posts + published s.1 ≤
      s.2.posts + published (finalizeAll calls s).1 := by
  induction calls generalizing s with
  | nil => exact le_rfl
  | cons call rest ih =>
    have hstep := posts_finalizeAt_le call.1 call.2 s
    have hrest := ih (finalizeAt call.1 call.2 s)
    rw [finalizeAll]
    omega

end Poster

/-- Each delivery to a webhook asks for one post, whatever the client makes of it. It succeeds if
and only if a response came back whose status is below 400; otherwise it fails under the name of its
artifact, with the error of the client as the cause if there was one. A client that was made for the
delivery is closed, and one that was given is not. The client that the sink posts by is such a
client, and sends at most one request for a post. Guards in front of webhooks cause no more posts
than there are guards that are taken meanwhile. -/
theorem Webhook.one_post_per_delivery (w : Webhook) :
    (∀ (c : Client) (before : List (Text × Value)) (id : Text) (payload : Value)
        (n : Network),
      let now := w.persistAllBy c before n
      now.posts = n.posts + before.length ∧
        now.opened = n.opened + before.length * w.clients ∧
        now.closed = n.closed + before.length * w.clients ∧
        w.Delivers id (c.post id payload (w.opening now)).2 now (w.persistBy c id payload now)) ∧
    w.persist = w.persistBy w.client ∧
    (∀ id payload n, n.IsOrderly → IsExpected (w.client.post id payload n).2) ∧
    (∀ id payload n, ∃ sent : List Request, sent.length ≤ 1 ∧
      (∀ f, body id payload = .error f → sent = []) ∧
      (w.persist id payload n).state.sent = n.sent ++ sent) ∧
    ∀ (calls : List (Nat × Submission)) (posters : List Poster) (n : Network),
      (Poster.finalizeAll calls (posters, n)).2.posts + Poster.published posters ≤
        n.posts + Poster.published (Poster.finalizeAll calls (posters, n)).1 := by
  refine ⟨?_, w.persist_eq_persistBy,
    fun id payload n hn => w.isExpected_postBy Address.ofString id payload hn, w.persist_sent,
    fun calls posters n => Poster.posts_finalizeAll_le calls (posters, n)⟩
  intro c before id payload n
  obtain ⟨hposts, hopened, hclosed⟩ := w.persistAllBy_counts c before n
  exact ⟨hposts, hopened, hclosed, w.delivers_persistBy c id payload _⟩

/-- A client of the sink's own that cannot connect, and one that is answered. -/
theorem Webhook.one_post_per_delivery_downOrUp :
    let w : Webhook := ⟨"http://a/", true⟩
    let down := Network.down "refused"
    let up := Network.new fun _ => .response 202 ""
    down.IsOrderly ∧
      (∃ reason, (w.persist (.ofString "a.json") (.object []) down).answer =
        .error (.undelivered (.ofString "a.json") reason (some (.client .connect "refused")))) ∧
      (w.persist (.ofString "a.json") (.object []) down).state.closed = 1 ∧
      (w.persistAllBy w.client [(.ofString "a.json", .object []), (.ofString "b.json", .null)]
        down).posts = 2 ∧
      (w.persist (.ofString "a.json") (.object []) up).answer = .ok () := by
  intro w down up
  have hdown : down.IsOrderly := by
    intro k message
    simp [down, Network.down, Network.new]
  have hlost : (w.post (.ofString "a.json") (.object []) (w.opening down)).2 =
      .error (.client .connect "refused") := by cbv
  have htaken :
      (w.post (.ofString "a.json") (.object []) (w.opening up)).2 = .ok (202, "") := by cbv
  obtain ⟨hrun, hpersist, hexpected, -, -⟩ := one_post_per_delivery w
  obtain ⟨-, -, -, hone⟩ := hrun w.client [] (.ofString "a.json") (.object []) down
  obtain ⟨-, -, -, hother⟩ := hrun w.client [] (.ofString "a.json") (.object []) up
  obtain ⟨hposts, -⟩ :=
    hrun w.client [(.ofString "a.json", .object []), (.ofString "b.json", .null)]
      (.ofString "c.json") .null down
  rw [hpersist]
  refine ⟨hdown, ?_, hone.closed, hposts, hother.answer_ok_iff.mpr ⟨202, "", htaken, by decide⟩⟩
  cases hanswer : (w.persistBy w.client (.ofString "a.json") (.object []) down).answer with
  | ok =>
    obtain ⟨status, text, hok, -⟩ := hone.answer_ok_iff.mp hanswer
    cases hlost.symm.trans hok
  | error f =>
    have hopening : (w.opening down).IsOrderly := hdown
    obtain ⟨reason, cause, rfl, hcause⟩ :=
      hone.answer_error (hexpected _ _ _ hopening) f hanswer
    obtain rfl := (hcause _).mpr hlost
    exact ⟨reason, rfl⟩

end Proceedings
