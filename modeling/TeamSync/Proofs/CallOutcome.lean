import TeamSync.Proofs.Blame
import TeamSync.Proofs.EnvelopeParts
import TeamSync.Proofs.HeldToken
import TeamSync.Proofs.Json.Ordered

/-!
What a call comes to, in the order in which that is decided: whether there is a body, whether a
token is yielded, whether that token can be sent, and then the answer to the one request. A call
that ignores the body of its answer comes to the same, but for what that body decides.
-/

namespace TeamSync

open Json

/-! ### The error of an answer -/

/-- An error tells what an answer outside the 2xx range says: its status, the tag and the summary
that stand in its body, unless they are empty or the body is not that of an envelope, and its rate
limit. -/
structure ApiError.Tells (e : ApiError) (status : ℕ) (body : List UInt8) (limit : RateLimit) :
    Prop where
  status : e.status = status
  tag : ∀ t, e.tag = some t ↔ t ≠ "" ∧ ∃ v, Envelope.IsBody body v ∧ v.tag = some t
  summary : ∀ m, e.summary = some m ↔ m ≠ "" ∧ ∃ v, Envelope.IsBody body v ∧ v.summary = m
  rateLimit : e.rateLimit = limit

namespace ApiError

variable {status : ℕ} {body : List UInt8} {limit : RateLimit}

lemma tells_ofEnvelope :
    (ofEnvelope status (Envelope.parse? body) limit).Tells status body limit where
  status := rfl
  tag t := by
    simp only [← Envelope.parse?_eq_some_iff]
    rcases Envelope.parse? body with _ | v
    · simp [ofEnvelope]
    · simp [tag_ofEnvelope]
  summary m := by
    simp only [← Envelope.parse?_eq_some_iff]
    rcases Envelope.parse? body with _ | v
    · simp [ofEnvelope]
    · simp [summary_ofEnvelope]
  rateLimit := rfl

/-- Two errors that tell the same are the same. -/
lemma Tells.unique {e e' : ApiError} (h : e.Tells status body limit)
    (h' : e'.Tells status body limit) : e = e' := by
  obtain ⟨hstatus, htag, hsummary, hlimit⟩ := h
  obtain ⟨hstatus', htag', hsummary', hlimit'⟩ := h'
  have ht : e.tag = e'.tag := Option.ext fun t => (htag t).trans (htag' t).symm
  have hm : e.summary = e'.summary := Option.ext fun m => (hsummary m).trans (hsummary' m).symm
  cases e
  cases e'
  simp_all

lemma tells_iff {e : ApiError} :
    e.Tells status body limit ↔ e = ofEnvelope status (Envelope.parse? body) limit :=
  ⟨fun h => h.unique tells_ofEnvelope, fun h => h ▸ tells_ofEnvelope⟩

end ApiError

/-! ### Answers -/

/-- What the transport makes of a request that gets no answer. -/
def Client.transportError? (c : Client) (op : Operation) : Option Answer → Option NetworkError
  | none => some (.connectionFailed ("no mock response queued for " ++ c.endpoints.url op))
  | some (.failure cause) => some cause
  | some (.response ..) => none

/-- What a call comes to whose request has been sent, by what came of the request. -/
structure Client.Answers {α : Type} (c : Client) (d : Decoder α) (op : Operation)
    (a : Option Answer) (r : Except Error (Answered α)) : Prop where
  network : ∀ cause, r = .error (.within op (.network cause)) ↔ c.transportError? op a = some cause
  api : ∀ e, r = .error (.within op (.api e)) ↔
    ∃ status headers body arrival, a = some (.response status headers body arrival) ∧
      ¬(200 ≤ status ∧ status ≤ 299) ∧
      e.Tells status body (.ofResponse status (.ofList headers) (arrival.instant c.now))
  response : ∀ cause, r = .error (.within op (.response cause)) ↔
    ∃ status headers body arrival fault, a = some (.response status headers body arrival) ∧
      (200 ≤ status ∧ status ≤ 299) ∧ d.decode body = .error fault ∧
      cause = .deserialization fault.message
  value : ∀ v, r = .ok v ↔
    ∃ status headers body arrival, a = some (.response status headers body arrival) ∧
      (200 ≤ status ∧ status ≤ 299) ∧ d.decode body = .ok v.value ∧
      v.rateLimit = .ofResponse status (.ofList headers) (arrival.instant c.now)
  named : ∀ e, r = .error e → ∃ e', e = .within op e' ∧ e'.operations = []

lemma Http.isSuccess_iff {status : ℕ} : isSuccess status = true ↔ 200 ≤ status ∧ status ≤ 299 := by
  simp [isSuccess]

namespace Client

variable {α : Type} {c : Client} {d : Decoder α} {op : Operation}

lemma answers_read (a : Option Answer) : c.Answers d op a (c.read d op a) := by
  rcases a with _ | ⟨status, headers, body, arrival⟩ | cause
  · constructor <;> simp [read, receive, transportError?, Error.operations]
  · by_cases hs : 200 ≤ status ∧ status ≤ 299
    · have hle : ¬299 < status := by omega
      have hok := c.receive_of_success op headers body arrival (Http.isSuccess_iff.mpr hs)
      rcases hd : d.decode body with f | v
      · constructor
        case response => simp [read, hok, hd, hs, eq_comm (b := ResponseError.deserialization _)]
        all_goals simp [read, hok, hd, transportError?, hs, hle, Error.operations]
      · constructor
        case value =>
          rintro ⟨v', limit⟩
          simp [read, hok, hd, hs, eq_comm (a := limit)]
        all_goals simp [read, hok, hd, transportError?, hs, hle]
    · have hno : Http.isSuccess status = false := by
        rw [← Bool.not_eq_true, Http.isSuccess_iff]
        exact hs
      have herr : c.receive op (some (.response status headers body arrival)) =
          .error (.api (.ofEnvelope status (Envelope.parse? body)
            (.ofResponse status (.ofList headers) (arrival.instant c.now)))) :=
        receive_of_rejects (.status hno)
      constructor
      case api =>
        have hout : 200 ≤ status → 299 < status := by omega
        intro e
        simpa [read, herr, ApiError.tells_iff, eq_comm (a := e)] using fun _ => hout
      all_goals simp [read, herr, transportError?, hs, Error.operations]
  · constructor <;> simp [read, receive, transportError?, Error.operations]

end Client

/-! ### Calls -/

/-- A call that ignores the body of its answer does what a call that reads it does, and comes to the
same, unless that body alone is what is wrong. -/
structure Client.Ignores {α : Type} (c : Client) (d : Decoder α) (op : Operation)
    (body : Option Value) (s : Session) : Prop where
  session : (c.callDiscard op body s).2.Alike (c.call d op body s).2
  value : ∀ v, (c.call d op body s).1 = .ok v → (c.callDiscard op body s).1 = .ok v.rateLimit
  error : ∀ e, (c.callDiscard op body s).1 = .error e → (c.call d op body s).1 = .error e
  unread : ∀ l, (c.callDiscard op body s).1 = .ok l →
    (∃ v, (c.call d op body s).1 = .ok v ∧ v.rateLimit = l) ∨
      ∃ status headers b arrival fault,
        s.transport.next? = some (.response status headers b arrival) ∧
        (200 ≤ status ∧ status ≤ 299) ∧ d.decode b = .error fault ∧
        (c.call d op body s).1 = .error (.within op (.response (.deserialization fault.message))) ∧
        l = .ofResponse status (.ofList headers) (arrival.instant c.now)

namespace Client

variable {α : Type} (c : Client) (d : Decoder α) (op : Operation) (body : Value) (s : Session)

variable {c s}

/-- A round trip without a token fails as the token did and sends nothing. -/
lemma roundTrip_of_error {e : Error} (h : (c.token s).1 = .error e)
    (outcome : Option Answer → Except Error α) (told : Option Answer → List Event) :
    c.roundTrip op body outcome told s = (.error (.within op e), (c.token s).2) :=
  roundTrip_apply_error c op body outcome told (Prod.ext h rfl)

/-- A round trip whose token cannot be sent fails for the token and sends nothing. -/
lemma roundTrip_of_illegal {t : String} (h : (c.token s).1 = .ok t)
    (hl : Http.isHeaderValue t = false) (outcome : Option Answer → Except Error α)
    (told : Option Answer → List Event) :
    c.roundTrip op body outcome told s =
      (.error (.within op (.authentication .invalidHeaderValue)), (c.token s).2) := by
  rw [← isHeaderValue_bearer_eq] at hl
  exact roundTrip_apply_illegal c op body outcome told (Prod.ext h rfl) hl

/-- A round trip whose token can be sent is one request and what is read of its answer. -/
lemma roundTrip_of_legal {t : String} (h : (c.token s).1 = .ok t)
    (hl : Http.isHeaderValue t = true) (outcome : Option Answer → Except Error α)
    (told : Option Answer → List Event) :
    c.roundTrip op body outcome told s =
      (outcome s.transport.next?,
        (c.token s).2.spend (c.requestOf op t body) (told s.transport.next?)) := by
  rw [← isHeaderValue_bearer_eq] at hl
  rw [← c.token_transport s]
  exact roundTrip_apply c op body outcome told (Prod.ext h rfl) hl

variable (c s)

/-- What fails before there is an answer fails alike. -/
lemma ignores_of_eq {x : Option Value} {e : Error} {u : Session}
    (hcall : c.call d op x s = (.error e, u)) (hdiscard : c.callDiscard op x s = (.error e, u)) :
    c.Ignores d op x s := by
  constructor
  · rw [hcall, hdiscard]
  · simp [hcall]
  · simp [hcall, hdiscard]
  · simp [hdiscard]

lemma ignores_of_legal {t : String} (h : (c.token s).1 = .ok t)
    (hl : Http.isHeaderValue t = true) : c.Ignores d op (some body) s := by
  have hcall : (c.call d op (some body) s).1 = c.read d op s.transport.next? := by
    rw [call_eq, roundTrip_of_legal op body h hl]
  have hdiscard : (c.callDiscard op (some body) s).1 = c.accept op s.transport.next? := by
    rw [callDiscard_eq, roundTrip_of_legal op body h hl]
  have hsession : (c.callDiscard op (some body) s).2.Alike (c.call d op (some body) s).2 := by
    rw [call_eq, callDiscard_eq, roundTrip_of_legal op body h hl, roundTrip_of_legal op body h hl]
    exact (Session.Alike.refl _).spend _ _ _
  rcases c.success_or_rejects op s.transport.next? with
    ⟨status, headers, b, arrival, ha, hs⟩ | ⟨e, he⟩
  · have hok := c.receive_of_success op headers b arrival hs
    rw [accept, ha, hok] at hdiscard
    rcases hdec : d.decode b with f | v
    · rw [read, ha, hok] at hcall
      simp only [hdec] at hcall
      refine ⟨hsession, by simp [hcall], by simp [hdiscard], fun l hl => .inr ?_⟩
      rw [hdiscard] at hl
      exact ⟨status, headers, b, arrival, f, ha, Http.isSuccess_iff.mp hs, hdec, hcall,
        (Except.ok.inj hl).symm⟩
    · rw [read, ha, hok] at hcall
      simp only [hdec] at hcall
      refine ⟨hsession, fun v' hv => ?_, by simp [hdiscard], fun l hl => .inl ⟨_, hcall, ?_⟩⟩
      · rw [hcall] at hv
        rw [hdiscard, ← Except.ok.inj hv]
      · rw [hdiscard] at hl
        exact Except.ok.inj hl
  · rw [read, receive_of_rejects he] at hcall
    rw [accept, receive_of_rejects he] at hdiscard
    exact ⟨hsession, by simp [hcall], by simp [hcall, hdiscard], by simp [hdiscard]⟩

lemma ignores (x : Option Value) : c.Ignores d op x s := by
  rcases x with _ | body
  · exact c.ignores_of_eq d op s rfl rfl
  rcases h : (c.token s).1 with e | t
  · have hcall : c.call d op (some body) s = (.error (.within op e), (c.token s).2) := by
      rw [call_eq, roundTrip_of_error op body h]
    have hdiscard : c.callDiscard op (some body) s = (.error (.within op e), (c.token s).2) := by
      rw [callDiscard_eq, roundTrip_of_error op body h]
    exact c.ignores_of_eq d op s hcall hdiscard
  rcases hl : Http.isHeaderValue t with _ | _
  · have hcall : c.call d op (some body) s =
        (.error (.within op (.authentication .invalidHeaderValue)), (c.token s).2) := by
      rw [call_eq, roundTrip_of_illegal op body h hl]
    have hdiscard : c.callDiscard op (some body) s =
        (.error (.within op (.authentication .invalidHeaderValue)), (c.token s).2) := by
      rw [callDiscard_eq, roundTrip_of_illegal op body h hl]
    exact c.ignores_of_eq d op s hcall hdiscard
  · exact c.ignores_of_legal d op body s h hl

/-- **What a call comes to.** Without a body it fails at once, and nothing happens. With a body it
asks for one token, which sends nothing; if none is yielded or the one that is yielded is no header
value, it fails for that, and that is all. Otherwise it sends exactly one request: the token stands
in one header as it is and nowhere else, and the body is a text that is read back as the body was.
The answer to that request then decides between an error of the transport, an error of the service,
a body that cannot be read and the value, each just in its case. Every error is put under the
operation once. If the body of the answer is ignored, all this is the same but for that body. -/
theorem call_outcome (x : Option Value) :
    (x = none → c.call d op x s =
      (.error (.within op (.argument (.invalid (op.name ++ " requires a request body")))), s)) ∧
    (c.token s).2.transport = s.transport ∧
    (∀ b e, x = some b → (c.token s).1 = .error e →
      c.call d op x s = (.error (.within op e), (c.token s).2)) ∧
    (∀ b t, x = some b → (c.token s).1 = .ok t → Http.isHeaderValue t = false →
      c.call d op x s =
        (.error (.within op (.authentication .invalidHeaderValue)), (c.token s).2)) ∧
    (∀ b t, x = some b → (c.token s).1 = .ok t → Http.isHeaderValue t = true →
      (c.call d op x s).2.Alike ((c.token s).2.spend
        ⟨"POST", c.endpoints.url op,
          [("authorization", "Bearer " ++ t), ("accept", "application/json"),
            ("content-type", "application/json")],
          some b.toText⟩ []) ∧
      (b.whole = true → b.depth ≤ 127 →
        parse (Utf8.ofString b.toText) = .ok b.sorted ∧ (b.Ordered → b.sorted = b)) ∧
      c.Answers d op s.transport.next? (c.call d op x s).1) ∧
    c.Ignores d op x s := by
  refine ⟨?none, c.token_transport s, ?error, ?illegal, ?sent, c.ignores d op s x⟩
  case none =>
    rintro rfl
    rfl
  case error =>
    rintro b e rfl h
    rw [call_eq, roundTrip_of_error op b h]
  case illegal =>
    rintro b t rfl h hl
    rw [call_eq, roundTrip_of_illegal op b h hl]
  case sent =>
    rintro b t rfl h hl
    rw [call_eq, roundTrip_of_legal op b h hl]
    refine ⟨(Session.Alike.refl _).spend _ _ _, fun hw hd => ?_, answers_read _⟩
    exact ⟨parse_toText hw hd, b.sorted_of_ordered⟩

end Client

/-! ### A sample -/

open Sample in
/-- A call that is declined with an envelope tells the tag and the summary of it. -/
theorem Client.call_outcome_declined :
    (client.token (conflict bothParts)).1 = .ok "sl.token" ∧
      Http.isHeaderValue "sl.token" = true ∧
      ∃ e, (client.call removalRecord.decoder .removeMember (some .null) (conflict bothParts)).1 =
        .error (.within Operation.removeMember (.api e)) ∧ e.status = 409 ∧
        e.tag = some "duplicate_user" ∧ e.summary = some "duplicate_user/.." := by
  have ht : (client.token (conflict bothParts)).1 = .ok "sl.token" := rfl
  have hl : Http.isHeaderValue "sl.token" = true := by decide +kernel
  obtain ⟨-, -, -, -, hsent, -⟩ := call_outcome client removalRecord.decoder .removeMember
    (conflict bothParts) (some .null)
  obtain ⟨-, -, hanswers⟩ := hsent .null "sl.token" rfl ht hl
  have hbody : Envelope.IsBody (Utf8.ofString (Value.object bothParts).toText)
      ⟨"duplicate_user/..", some "duplicate_user"⟩ :=
    Envelope.parse?_eq_some_iff.mp (by decide +kernel)
  have htells : (ApiError.ofEnvelope 409
      (Envelope.parse? (Utf8.ofString (Value.object bothParts).toText))
      (.ofResponse 409 (.ofList []) client.now)).Tells 409 _ _ := ApiError.tells_ofEnvelope
  have hfails := (hanswers.api _).mpr
    ⟨409, [], _, none, next?_conflict bothParts, by omega, htells⟩
  refine ⟨ht, hl, _, hfails, rfl, ?tag, ?summary⟩
  case tag => exact (htells.tag _).mpr ⟨by decide, _, hbody, rfl⟩
  case summary => exact (htells.summary _).mpr ⟨by decide, _, hbody, rfl⟩

end TeamSync
