import TeamSync.Client
import TeamSync.Proofs.Step

/-!
A call to the service as one round trip: a token is asked for, one request goes out with it, and
everything else is a function of the answer to that request.
-/

namespace TeamSync

/-- The answer to the request with some number, counted from now. -/
def Transport.answer? (t : Transport) (k : ℕ) : Option Answer := t.queue[k]? <|> t.standing

@[simp] lemma Transport.answer?_zero (t : Transport) : t.answer? 0 = t.next? := by
  simp [answer?, next?, List.head?_eq_getElem?]

/-- The transport after some requests. -/
def Transport.after (t : Transport) (rs : List Http.Request) : Transport :=
  ⟨t.queue.drop rs.length, t.standing, t.sent ++ rs⟩

lemma Transport.after_after (t : Transport) (rs qs : List Http.Request) :
    (t.after rs).after qs = t.after (rs ++ qs) := by
  simp [after, List.drop_drop]

lemma Transport.answer?_after (t : Transport) (rs : List Http.Request) (k : ℕ) :
    (t.after rs).answer? k = t.answer? (rs.length + k) := by
  simp [after, answer?, List.getElem?_drop]

lemma Session.spend_transport (s : Session) (r : Http.Request) (es : List Event) :
    (s.spend r es).transport = s.transport.after [r] := by
  simp [Session.spend, Transport.send, Transport.after]

/-! ### Errors of envelopes -/

namespace ApiError

variable {status : ℕ} {limit : RateLimit} {v : Envelope}

lemma summary_ofEnvelope {m : String} :
    (ofEnvelope status (some v) limit).summary = some m ↔ m ≠ "" ∧ v.summary = m := by
  simp only [ofEnvelope, Envelope.summary?, Option.bind_some, Option.filter_eq_some_iff,
    Option.some.injEq, decide_eq_true_eq]
  grind

lemma tag_ofEnvelope {t : String} :
    (ofEnvelope status (some v) limit).tag = some t ↔ t ≠ "" ∧ v.tag = some t := by
  simp [ofEnvelope, Envelope.tag?, and_comm]

end ApiError

namespace Client

variable {α : Type}

/-! ### Tokens -/

/-- The token that the consultation with some number yields, counted from now. -/
def tokenAt (c : Client) (s : Session) : ℕ → Except Error String
  | 0 => (c.token s).1
  | k + 1 => c.tokenAt (c.token s).2 k

/-- The provider has a token for every call to come, and each of them can be sent. -/
def Supplies (c : Client) (s : Session) (ts : ℕ → String) : Prop :=
  ∀ k, c.tokenAt s k = .ok (ts k) ∧ Http.isHeaderValue (bearer (ts k))

lemma token_held {c : Client} {cr : Credential} (h : c.tokens = .held cr) (s : Session) :
    c.token s = (.ok cr.token, s) := by
  simp [token, h]

lemma token_external {c : Client} (h : c.tokens = .external) (s : Session) :
    c.token s = Step.askSource s := by
  simp [token, h]

lemma token_cases (c : Client) (s : Session) :
    (∃ cr, c.tokens = .held cr ∧ c.token s = (.ok cr.token, s)) ∨
    (c.tokens = .external ∧ s.source = none ∧
      c.token s = (.error (.configuration .missingCredential), s)) ∨
    (∃ src, c.tokens = .external ∧ s.source = some src ∧
      c.token s = (src.current, { s with source := some src.advance, asked := s.asked + 1 })) := by
  rcases h : c.tokens with cr | _
  · exact .inl ⟨cr, rfl, token_held h s⟩
  · rw [token_external h]
    rcases hs : s.source with _ | src
    · exact .inr (.inl ⟨rfl, rfl, by simp [Step.askSource, hs]⟩)
    · exact .inr (.inr ⟨src, rfl, rfl, by simp [Step.askSource, hs]⟩)

@[simp] lemma token_transport (c : Client) (s : Session) :
    (c.token s).2.transport = s.transport := by
  rcases c.token_cases s with ⟨_, _, h⟩ | ⟨_, _, h⟩ | ⟨_, _, _, h⟩ <;> rw [h]

@[simp] lemma token_log (c : Client) (s : Session) : (c.token s).2.log = s.log := by
  rcases c.token_cases s with ⟨_, _, h⟩ | ⟨_, _, h⟩ | ⟨_, _, _, h⟩ <;> rw [h]

lemma token_congr (c : Client) {s u : Session} (h : s.source = u.source) :
    (c.token s).1 = (c.token u).1 ∧ (c.token s).2.source = (c.token u).2.source := by
  rcases ht : c.tokens with cr | _
  · rw [token_held ht, token_held ht]; exact ⟨rfl, h⟩
  · rw [token_external ht, token_external ht]
    rcases hs : s.source with _ | src <;> simp [Step.askSource, ← h, hs]

lemma token_alike (c : Client) {s u : Session} (h : s.Alike u) :
    (c.token s).1 = (c.token u).1 ∧ (c.token s).2.Alike (c.token u).2 := by
  refine ⟨(c.token_congr h.source).1, by simp [h.transport], (c.token_congr h.source).2, ?_⟩
  rcases ht : c.tokens with cr | _
  · rw [token_held ht, token_held ht]; exact h.asked
  · rw [token_external ht, token_external ht]
    rcases hs : s.source with _ | src <;> simp [Step.askSource, ← h.source, hs, h.asked]

lemma tokenAt_congr (c : Client) {s u : Session} (h : s.source = u.source) (k : ℕ) :
    c.tokenAt s k = c.tokenAt u k := by
  induction k generalizing s u with
  | zero => exact (c.token_congr h).1
  | succ k ih => exact ih (c.token_congr h).2

lemma Supplies.congr {c : Client} {s u : Session} {ts : ℕ → String} (h : c.Supplies s ts)
    (hu : u.source = s.source) : c.Supplies u ts := fun k => by
  rw [c.tokenAt_congr hu]; exact h k

lemma Supplies.token {c : Client} {s : Session} {ts : ℕ → String} (h : c.Supplies s ts) :
    c.token s = (.ok (ts 0), (c.token s).2) :=
  Prod.ext (h 0).1 rfl

lemma Supplies.legal {c : Client} {s : Session} {ts : ℕ → String} (h : c.Supplies s ts) :
    Http.isHeaderValue (bearer (ts 0)) := (h 0).2

/-- What is left of a supply after one consultation. -/
lemma Supplies.tail {c : Client} {s : Session} {ts : ℕ → String} (h : c.Supplies s ts) :
    c.Supplies (c.token s).2 (fun k => ts (k + 1)) := fun k => h (k + 1)

/-- A held token that can be sent is a supply. -/
lemma supplies_held {c : Client} {cr : Credential} (h : c.tokens = .held cr)
    (hl : Http.isHeaderValue (bearer cr.token)) (s : Session) :
    c.Supplies s fun _ => cr.token := by
  intro k
  refine ⟨?_, hl⟩
  induction k with
  | zero => simp [tokenAt, token_held h]
  | succ k ih => simp only [tokenAt, token_held h]; exact ih

/-! ### Round trips -/

/-- The request that carries a token which can be sent. -/
def requestOf (c : Client) (op : Operation) (token : String) (body : Json.Value) : Http.Request :=
  ⟨op.method, c.endpoints.url op,
    [("authorization", bearer token), ("accept", Http.mediaTypeJson),
      ("content-type", Http.mediaTypeJson)],
    some body.toText⟩

lemma request_of_legal (c : Client) {op : Operation} {token : String} {body : Json.Value}
    (h : Http.isHeaderValue (bearer token)) :
    c.request op token body = .ok (c.requestOf op token body) := by
  simp [request, h, requestOf]

/-- What a request to an operation comes to when it gets an answer, before its body is read. -/
def receive (c : Client) (op : Operation) : Option Answer → Except Error (Http.Response × RateLimit)
  | none =>
    .error (.network (.connectionFailed ("no mock response queued for " ++ c.endpoints.url op)))
  | some (.failure cause) => .error (.network cause)
  | some (.response status headers body arrival) =>
    let fields := Http.Headers.ofList headers
    let limit := RateLimit.ofResponse status fields (arrival.instant c.now)
    if Http.isSuccess status then .ok (⟨status, fields, body, arrival⟩, limit)
    else .error (.api (.ofEnvelope status (Envelope.parse? body) limit))

/-- The ways in which a request gets no success, each with the error that this is. -/
inductive Rejects (c : Client) (op : Operation) : Option Answer → Error → Prop where
  | noAnswer : Rejects c op none (.network (.connectionFailed
      ("no mock response queued for " ++ c.endpoints.url op)))
  | transport (cause : NetworkError) : Rejects c op (some (.failure cause)) (.network cause)
  | status {status : ℕ} {headers : List (String × String)} {body : List UInt8}
      {arrival : Arrival} (h : Http.isSuccess status = false) :
      Rejects c op (some (.response status headers body arrival))
        (.api (.ofEnvelope status (Envelope.parse? body)
          (.ofResponse status (.ofList headers) (arrival.instant c.now))))

lemma receive_of_success (c : Client) (op : Operation) {status : ℕ}
    (headers : List (String × String)) (body : List UInt8) (arrival : Arrival)
    (h : Http.isSuccess status = true) :
    c.receive op (some (.response status headers body arrival)) =
      .ok (⟨status, .ofList headers, body, arrival⟩,
        .ofResponse status (.ofList headers) (arrival.instant c.now)) := by
  simp [receive, h]

lemma receive_of_rejects {c : Client} {op : Operation} {a : Option Answer} {e : Error}
    (h : c.Rejects op a e) : c.receive op a = .error e := by
  cases h with
  | noAnswer => rfl
  | transport => rfl
  | status h => simp [receive, h]

/-- Every answer is a success or is rejected. -/
lemma success_or_rejects (c : Client) (op : Operation) (a : Option Answer) :
    (∃ status headers body arrival, a = some (.response status headers body arrival) ∧
      Http.isSuccess status = true) ∨ ∃ e, c.Rejects op a e := by
  rcases a with _ | ⟨status, headers, body, arrival⟩ | cause
  · exact .inr ⟨_, .noAnswer⟩
  · rcases hs : Http.isSuccess status with _ | _
    · exact .inr ⟨_, .status hs⟩
    · exact .inl ⟨status, headers, body, arrival, rfl, hs⟩
  · exact .inr ⟨_, .transport cause⟩

/-- What is logged of a request and of its answer. -/
def receiveLog (op : Operation) (a : Option Answer) : List Event :=
  ⟨.debug, "Sending request", [("path", .text op.path)], []⟩ ::
    match a with
    | some (.response status _ body _) =>
      if Http.isSuccess status then []
      else [⟨.warn, "Request failed", [("status", .count status), ("path", .text op.path),
        ("body", .text (Log.excerpt body))], []⟩]
    | _ => []

/-- One round trip of a call: `outcome` is what the answer comes to and `told` what is logged. -/
def roundTrip (c : Client) (op : Operation) (body : Json.Value)
    (outcome : Option Answer → Except Error α) (told : Option Answer → List Event) : Step α :=
  fun s =>
    match c.token s with
    | (.error e, s) => (.error (.within op e), s)
    | (.ok token, s) =>
      if Http.isHeaderValue (bearer token) then
        (outcome s.transport.next?,
          s.spend (c.requestOf op token body) (told s.transport.next?))
      else (.error (.within op (.authentication .invalidHeaderValue)), s)

/-! ### What the calls are -/

open Step

lemma execute_apply_error (c : Client) (op : Operation) (body : Json.Value) {s s₁ : Session}
    {e : Error} (h : c.token s = (.error e, s₁)) :
    c.execute op (some body) s = (.error e, s₁) := by
  simp only [execute, bind_of_error h]

lemma execute_apply_illegal (c : Client) (op : Operation) (body : Json.Value) {s s₁ : Session}
    {t : String} (h : c.token s = (.ok t, s₁)) (hl : Http.isHeaderValue (bearer t) = false) :
    c.execute op (some body) s = (.error (.authentication .invalidHeaderValue), s₁) := by
  simp [execute, bind_of_ok h, request, hl, bind_apply]

lemma execute_apply (c : Client) (op : Operation) (body : Json.Value) {s s₁ : Session} {t : String}
    (h : c.token s = (.ok t, s₁)) (hl : Http.isHeaderValue (bearer t)) :
    c.execute op (some body) s =
      (c.receive op s₁.transport.next?,
        s₁.spend (c.requestOf op t body) (receiveLog op s₁.transport.next?)) := by
  simp only [execute, bind_of_ok h, bind_apply, request_of_legal c hl, ofExcept_apply, log_apply,
    send_apply, Session.noting_transport, Transport.send]
  rcases s₁.transport.next? with _ | ⟨status, headers, body, arrival⟩ | cause
  · simp [receive, receiveLog, Session.spend, requestOf]
  · by_cases hs : Http.isSuccess status <;>
      simp [receive, receiveLog, Answer.result, hs, Session.spend, bind_apply, Session.noting]
  · simp [receive, receiveLog, Answer.result, Session.spend]

lemma roundTrip_apply_error (c : Client) (op : Operation) (body : Json.Value)
    (outcome : Option Answer → Except Error α) (told : Option Answer → List Event)
    {s s₁ : Session} {e : Error} (h : c.token s = (.error e, s₁)) :
    c.roundTrip op body outcome told s = (.error (.within op e), s₁) := by
  simp only [roundTrip, h]

lemma roundTrip_apply_illegal (c : Client) (op : Operation) (body : Json.Value)
    (outcome : Option Answer → Except Error α) (told : Option Answer → List Event)
    {s s₁ : Session} {t : String} (h : c.token s = (.ok t, s₁))
    (hl : Http.isHeaderValue (bearer t) = false) :
    c.roundTrip op body outcome told s =
      (.error (.within op (.authentication .invalidHeaderValue)), s₁) := by
  simp [roundTrip, h, hl]

lemma roundTrip_apply (c : Client) (op : Operation) (body : Json.Value)
    (outcome : Option Answer → Except Error α) (told : Option Answer → List Event)
    {s s₁ : Session} {t : String} (h : c.token s = (.ok t, s₁))
    (hl : Http.isHeaderValue (bearer t)) :
    c.roundTrip op body outcome told s =
      (outcome s₁.transport.next?,
        s₁.spend (c.requestOf op t body) (told s₁.transport.next?)) := by
  simp [roundTrip, h, hl]

/-- What a call that reads the body of its answer comes to. -/
def read (c : Client) (d : Json.Decoder α) (op : Operation) (a : Option Answer) :
    Except Error (Answered α) :=
  match c.receive op a with
  | .error e => .error (.within op e)
  | .ok (r, limit) =>
    match d.decode r.body with
    | .ok v => .ok ⟨v, limit⟩
    | .error f => .error (.within op (.response (.deserialization f.message)))

/-- What is logged when a body cannot be decoded. -/
def decodeLog (d : Json.Decoder α) (status : ℕ) (body : List UInt8) : List Event :=
  match d.decode body with
  | .ok _ => []
  | .error f => [⟨.warn, "Failed to decode response",
      [("status", .count status), ("body", .text (Log.excerpt body)),
        ("error", .text f.message)], []⟩]

/-- What is logged of a call that reads the body of its answer. -/
def readLog (c : Client) (d : Json.Decoder α) (op : Operation) (a : Option Answer) : List Event :=
  receiveLog op a ++
    match c.receive op a with
    | .error _ => []
    | .ok (r, _) => decodeLog d r.status r.body

/-- **A call is a round trip**, its answer read by a decoder. -/
theorem call_eq (c : Client) (d : Json.Decoder α) (op : Operation) (body : Json.Value) :
    c.call d op (some body) = c.roundTrip op body (c.read d op) (c.readLog d op) := by
  funext s
  rw [call, within_apply, bind_apply]
  rcases h : c.token s with ⟨e | t, s₁⟩
  · rw [execute_apply_error c op body h, roundTrip_apply_error c op body _ _ h]
    rfl
  rcases hl : Http.isHeaderValue (bearer t) with _ | _
  · rw [execute_apply_illegal c op body h hl, roundTrip_apply_illegal c op body _ _ h hl]
    rfl
  rw [execute_apply c op body h hl, roundTrip_apply c op body _ _ h hl]
  rcases hr : c.receive op s₁.transport.next? with e | ⟨r, limit⟩
  · simp [read, readLog, hr]
  · rcases hd : d.decode r.body with f | v <;>
      simp [read, readLog, decodeLog, decodeBody, hr, hd, bind_apply, Session.noting_spend]

/-- What a call that ignores the body of its answer comes to. -/
def accept (c : Client) (op : Operation) (a : Option Answer) : Except Error RateLimit :=
  match c.receive op a with
  | .error e => .error (.within op e)
  | .ok (_, limit) => .ok limit

/-- **A call that ignores the body of its answer is a round trip.** -/
theorem callDiscard_eq (c : Client) (op : Operation) (body : Json.Value) :
    c.callDiscard op (some body) = c.roundTrip op body (c.accept op) (receiveLog op) := by
  funext s
  rw [callDiscard, within_apply, bind_apply]
  rcases h : c.token s with ⟨e | t, s₁⟩
  · rw [execute_apply_error c op body h, roundTrip_apply_error c op body _ _ h]
    rfl
  rcases hl : Http.isHeaderValue (bearer t) with _ | _
  · rw [execute_apply_illegal c op body h hl, roundTrip_apply_illegal c op body _ _ h hl]
    rfl
  rw [execute_apply c op body h hl, roundTrip_apply c op body _ _ h hl]
  rcases hr : c.receive op s₁.transport.next? with e | ⟨r, limit⟩ <;>
    simp [accept, hr]

/-- A round trip whose outcome is worked on further is a round trip. -/
lemma roundTrip_bind_ofExcept {β : Type} (c : Client) (op : Operation) (body : Json.Value)
    (outcome : Option Answer → Except Error α) (told : Option Answer → List Event)
    (f : α → Except Error β) :
    (c.roundTrip op body outcome told >>= fun a => ofExcept (f a)) =
      c.roundTrip op body (fun a => outcome a >>= f) told := by
  funext s
  rw [bind_apply]
  rcases h : c.token s with ⟨e | t, s₁⟩
  · simp only [roundTrip_apply_error c op body _ _ h]
  rcases hl : Http.isHeaderValue (bearer t) with _ | _
  · simp only [roundTrip_apply_illegal c op body _ _ h hl]
  simp only [roundTrip_apply c op body _ _ h hl]
  rcases outcome s₁.transport.next? with e | a <;> simp [bind, Except.bind]

end Client

/-! ### A sample -/

namespace Sample

/-- A client that holds a token. -/
def client : Client := ⟨⟨"https://api.dropboxapi.com"⟩, .held ⟨"sl.token", none⟩, ⟨1780000000, 0⟩⟩

lemma token_client (s : Session) : client.token s = (.ok "sl.token", s) := rfl

lemma isHeaderValue_bearer : Http.isHeaderValue (bearer "sl.token") := by decide +kernel

lemma supplies (s : Session) : client.Supplies s fun _ => "sl.token" := by
  have hc : client.tokens = .held ⟨"sl.token", none⟩ := rfl
  exact Client.supplies_held hc isHeaderValue_bearer s

end Sample

end TeamSync
