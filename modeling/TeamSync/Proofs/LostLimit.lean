import TeamSync.Proofs.FailureNames
import TeamSync.Proofs.RateReport

/-!
The rate limit that a failure loses. Only the error of the service has room for a rate limit, so an
error has one only if it tells of a refusal. What goes wrong with an answer that is a success is
told without the rate limit that the answer reported.
-/

namespace TeamSync

/-! ### What a failed call tells -/

/-- The rate limit of an answer that is a refusal. -/
def Answer.refusalLimit? (now : Instant) : Answer → Option RateLimit
  | .response status headers _ arrival =>
    if Http.isSuccess status then none
    else some (.ofResponse status (.ofList headers) (arrival.instant now))
  | .failure _ => none

namespace Client

variable {c : Client} {op : Operation} {e : Error} {a : Option Answer}

lemma refusalLimit?_eq_some {now : Instant} {l : RateLimit}
    (h : a.bind (Answer.refusalLimit? now) = some l) :
    ∃ status headers body arrival, a = some (.response status headers body arrival) ∧
      Http.isSuccess status = false ∧
      l = .ofResponse status (.ofList headers) (arrival.instant now) := by
  rcases a with _ | ⟨status, headers, body, arrival⟩ | cause
  · cases h
  · rcases hs : Http.isSuccess status with _ | _
    · obtain rfl : RateLimit.ofResponse status (.ofList headers) (arrival.instant now) = l := by
        simpa [Answer.refusalLimit?, hs] using h
      exact ⟨status, headers, body, arrival, rfl, hs, rfl⟩
    · simp [Answer.refusalLimit?, hs] at h
  · cases h

/-- Why a call fails has the rate limit of its answer if that is a refusal, and otherwise none. -/
lemma Fails.rateLimit?_eq (h : c.Fails op (.ok a) e) :
    e.rateLimit? = a.bind (Answer.refusalLimit? c.now) := by
  cases h with
  | rejected h =>
    cases h with
    | noAnswer => rfl
    | transport => rfl
    | status hs => simp [Answer.refusalLimit?, hs, Error.rateLimit?, Error.api?, Error.root,
        ApiError.ofEnvelope]
  | undecodable hs => simp [Answer.refusalLimit?, hs, Error.rateLimit?, Error.api?, Error.root]

lemma Names.rateLimit?_eq (h : c.Names op (.ok a) e) :
    e.rateLimit? = a.bind (Answer.refusalLimit? c.now) := by
  rcases h with ⟨e', rfl, h⟩ | h
  · exact h.rateLimit?_eq
  · cases h with
    | intro hs => simp [Answer.refusalLimit?, hs, Error.rateLimit?, Error.api?, Error.root]

/-- The error of a call without a token is why there was none. -/
lemma Names.of_error {e' : Error} (h : c.Names op (.error e') e) : e = .within op e' := by
  rcases h with ⟨_, rfl, h⟩ | h <;> cases h
  rfl

end Client

lemma Error.isUpstream_of_rateLimit? {e : Error} {l : RateLimit} (h : e.rateLimit? = some l) :
    e.IsUpstream := by
  obtain ⟨api, hapi, -⟩ := Option.map_eq_some_iff.mp h
  rcases hr : e.root <;> simp [Error.api?, hr, Error.IsUpstream] at hapi ⊢

/-! ### Commands -/

namespace Connector

variable {k : Connector} {s : Session} {cmd : Command} {e : Error}

/-- A failure that has a rate limit has that of the last answer, and this is a refusal. -/
lemma limit_of_refusal (hs : k.directory.client.FailsApart s) (h : (k.perform cmd s).1 = .error e)
    {l : RateLimit} (hl : e.rateLimit? = some l) :
    ∃ rs, (k.perform cmd s).2.transport = s.transport.after rs ∧ rs ≠ [] ∧
      (s.transport.answer? (rs.length - 1)).bind
        (Answer.refusalLimit? k.directory.client.now) = some l := by
  obtain ⟨xs, y, -, htokens, hsession, hnames⟩ :=
    k.blames_perform cmd s e h (Error.isUpstream_of_rateLimit? hl)
  refine ⟨_, hsession.transport.trans (Client.makeAll_transport s (xs ++ [y])), ?_⟩
  rw [Client.upshot] at hnames
  rcases hsend : sendable (k.directory.client.tokenAt s xs.length) with e' | t <;>
    rw [hsend] at hnames
  · -- without a token there is no answer, and the reason has no rate limit
    have hnone := hs.rateLimit? hsend
    rw [hnames.of_error] at hl
    cases hnone.symm.trans hl
  · have hall : ∀ i < (xs ++ [y]).length,
        ∃ t, sendable (k.directory.client.tokenAt s i) = .ok t := by
      intro i hi
      rw [List.length_append, List.length_singleton] at hi
      by_cases heq : i = xs.length
      · exact ⟨t, heq ▸ hsend⟩
      · exact htokens i (by omega)
    have hlen : (k.directory.client.requestsFor (k.directory.client.tokenAt s)
        (xs ++ [y])).length = xs.length + 1 := by
      rw [Client.length_requestsFor hall, List.length_append, List.length_singleton]
    refine ⟨List.ne_nil_of_length_eq_add_one hlen, ?_⟩
    rw [hlen, Nat.add_sub_cancel, ← hnames.rateLimit?_eq, hl]

/-- **A success that fails a command reports no rate limit.** When a command fails and the last
answer that it got is a success, the error has no rate limit, whatever the answer reported and
under whatever labels the error passes on: no error that is raised on a success keeps what came
with it. An error that has a rate limit has that of the last answer, and this is a refusal. -/
theorem limit_of_failure (hs : k.directory.client.FailsApart s)
    (h : (k.perform cmd s).1 = .error e) :
    ∃ rs, (k.perform cmd s).2.transport = s.transport.after rs ∧
      (∀ status headers body arrival, rs ≠ [] →
        s.transport.answer? (rs.length - 1) = some (.response status headers body arrival) →
        Http.isSuccess status = true → ∀ labels, (e.under labels).rateLimit? = none) ∧
      ∀ labels l, (e.under labels).rateLimit? = some l →
        rs ≠ [] ∧ ∃ status headers body arrival,
          s.transport.answer? (rs.length - 1) = some (.response status headers body arrival) ∧
          Http.isSuccess status = false ∧
          l = .ofResponse status (.ofList headers) (arrival.instant k.directory.client.now) := by
  rcases hl : e.rateLimit? with _ | l
  · obtain ⟨xs, ht⟩ := k.exists_trail cmd s
    refine ⟨_, ht.session.transport.trans (Client.makeAll_transport s xs),
      fun _ _ _ _ _ _ _ labels => (e.rateLimit?_under labels).trans hl, fun labels l hsome => ?_⟩
    rw [e.rateLimit?_under, hl] at hsome
    cases hsome
  · obtain ⟨rs, hrs, hne, hlast⟩ := limit_of_refusal hs h hl
    obtain ⟨status, headers, body, arrival, ha, hstatus, hlimit⟩ :=
      Client.refusalLimit?_eq_some hlast
    refine ⟨rs, hrs, fun status' headers' body' arrival' _ ha' hs' => ?_, fun labels l' hsome => ?_⟩
    · rw [ha] at ha'
      cases ha'
      rw [hs'] at hstatus
      cases hstatus
    · rw [e.rateLimit?_under, hl] at hsome
      cases hsome
      exact ⟨hne, status, headers, body, arrival, ha, hstatus, hlimit⟩

end Connector

/-! ### Samples -/

namespace Sample

/-- A session with one answer, a success with a body and with what is said of a quota. -/
def withQuota (body : String) : Session :=
  session [.response 200 quotaHeaders (Utf8.ofString body)]

lemma failsApart_withQuota (body : String) :
    connector.directory.client.FailsApart (withQuota body) := by
  have hheld : connector.directory.client.tokens = .held ⟨"sl.token", none⟩ := rfl
  exact Client.failsApart_held hheld _

lemma upshot_withQuota (body : String) : client.upshot (withQuota body) 0 =
    .ok (some (.response 200 quotaHeaders (Utf8.ofString body))) := by
  rw [Client.upshot, (supplies (withQuota body) 0).1, sendable_of_legal isHeaderValue_bearer]
  rfl

/-- The end of an account. -/
def farewell : Command := .deleteAccount .user ⟨.user, "m:1"⟩

/-- The removal of a member is answered with an empty object. -/
lemma perform_farewell : (connector.perform farewell (withQuota "\x7b\x7d")).1 =
    .error (.response (.unexpected "empty response from remove member")) := by
  have hd : removalRecord.decoder.decode (Utf8.ofString "\x7b\x7d") = .ok "" := by decide +kernel
  exact Connector.perform_of_mute (upshot_withQuota _) (.intro rfl hd) "m:1"

lemma length_sent_farewell :
    (connector.perform farewell (withQuota "\x7b\x7d")).2.transport.sent.length = 1 := by
  decide +kernel

/-- A listing of the groups is answered with a text that is no page. -/
lemma perform_garbled : (connector.perform (.list .group none .start) (withQuota "oops")).1 =
    .error (.within Operation.listGroups (.response (.deserialization "expected value"))) := by
  have herror : (connector.perform (.list .group none .start) (withQuota "oops")).1.map
      (fun _ => ()) =
        .error (.within Operation.listGroups (.response (.deserialization "expected value"))) := by
    decide +kernel
  rcases hr : (connector.perform (.list .group none .start) (withQuota "oops")).1 with e | reply <;>
    rw [hr] at herror <;> cases herror
  rfl

end Sample

open Sample in
theorem Connector.limit_of_failure_mute :
    connector.directory.client.FailsApart (withQuota "\x7b\x7d") ∧
      ∃ e, (connector.perform farewell (withQuota "\x7b\x7d")).1 = .error e ∧
        (connector.perform farewell (withQuota "\x7b\x7d")).2.transport.sent.length = 1 ∧
        (withQuota "\x7b\x7d").transport.answer? 0 =
          some (.response 200 quotaHeaders (Utf8.ofString "\x7b\x7d")) ∧
        e.rateLimit? = none := by
  obtain ⟨rs, hrs, hlost, -⟩ := limit_of_failure (failsApart_withQuota _) perform_farewell
  have hlen : rs.length = 1 := by
    have hsent := length_sent_farewell
    rw [hrs] at hsent
    exact hsent
  have hne : rs ≠ [] := List.ne_nil_of_length_eq_add_one hlen
  refine ⟨failsApart_withQuota _, _, perform_farewell, length_sent_farewell, rfl, ?_⟩
  exact hlost 200 quotaHeaders _ none hne (by rw [hlen]; rfl) rfl []

open Sample in
/-- A listing fails for an answer that is no page, and the quota that the answer reports is lost. -/
theorem Connector.limit_of_undecodable :
    ∃ e, (connector.perform (.list .group none .start) (withQuota "oops")).1 = .error e ∧
      (withQuota "oops").transport.answer? 0 =
        some (.response 200 quotaHeaders (Utf8.ofString "oops")) ∧
      RateLimit.ofResponse 200 (.ofList quotaHeaders) connector.directory.client.now =
        ⟨.overlimit, some 10, some 0, none, none⟩ ∧
      e.rateLimit? = none := by
  have hlimit : RateLimit.ofResponse 200 (.ofList quotaHeaders) connector.directory.client.now =
      ⟨.overlimit, some 10, some 0, none, none⟩ := by decide +kernel
  exact ⟨_, perform_garbled, rfl, hlimit, rfl⟩

end TeamSync
