import TeamSync.Proofs.Course

/-!
What a host is told about the rate limit. It is that of the last answer that a command got, whether
the command succeeds, finds that it had nothing left to do, or fails with that answer.
-/

namespace TeamSync

/-! ### Errors on their way -/

namespace Error

lemma root_under (e : Error) (labels : List Label) : (e.under labels).root = e.root := by
  induction labels generalizing e with
  | nil => rfl
  | cons label labels ih => exact ih (.within label e)

/-- The rate limit of an error is that of its root, whatever labels the error is put under. -/
lemma rateLimit?_under (e : Error) (labels : List Label) :
    (e.under labels).rateLimit? = e.rateLimit? := rateLimit?_of_root (e.root_under labels)

lemma rateLimit?_eq_none {e : Error} : e.rateLimit? = none ↔ e.api? = none := by
  simp [rateLimit?]

end Error

/-! ### Tokens -/

namespace Client

variable {c : Client} {s : Session}

/-- Where there is no token for a call, the reason is no answer of the service. -/
def FailsApart (c : Client) (s : Session) : Prop :=
  ∀ i e, c.tokenAt s i = .error e → e.api? = none

lemma failsApart_held {cr : Credential} (h : c.tokens = .held cr) (s : Session) :
    c.FailsApart s := by
  intro i e he
  rw [tokenAt_held h] at he
  cases he

/-- A token that fails, or cannot be sent, has no rate limit. -/
lemma FailsApart.rateLimit? (h : c.FailsApart s) {i : ℕ} {e : Error}
    (he : sendable (c.tokenAt s i) = .error e) : e.rateLimit? = none := by
  rcases sendable_eq_error he with ht | rfl
  · exact Error.rateLimit?_eq_none.mpr (h i e ht)
  · rfl

/-- If all tokens can be sent, every call sends its request. -/
lemma length_requestsFor {ts : ℕ → Except Error String} {xs : List Call}
    (h : ∀ i < xs.length, ∃ t, sendable (ts i) = .ok t) :
    (c.requestsFor ts xs).length = xs.length := by
  induction xs generalizing ts with
  | nil => rfl
  | cons x xs ih =>
    obtain ⟨t, ht⟩ := h 0 (by simp)
    have hrest : (c.requestsFor (fun i => ts (i + 1)) xs).length = xs.length :=
      ih fun i hi => h (i + 1) (by simpa using hi)
    rw [requestsFor_cons, requestFor?_of_ok ht, List.length_append, hrest]
    simp [Nat.add_comm]

lemma limit?_eq_some {a : Option Answer} {l : RateLimit} (h : c.limit? a = some l) :
    ∃ status headers body arrival, a = some (.response status headers body arrival) ∧
      l = .ofResponse status (.ofList headers) (arrival.instant c.now) := by
  rcases a with _ | ⟨status, headers, body, arrival⟩ | cause
  · cases h
  · cases h
    exact ⟨status, headers, body, arrival, rfl, rfl⟩
  · cases h

end Client

/-! ### Commands -/

namespace Connector

variable {k : Connector} {s : Session} {cmd : Command}

/-- A command that contacts the service ends with an answer whose rate limit it carries, or it fails
and no answer of the service is the reason. -/
lemma perform_carries (hs : k.directory.client.FailsApart s) (hc : cmd.Contacts) :
    ∃ rs, (k.perform cmd s).2.transport = s.transport.after rs ∧
      ((rs ≠ [] ∧ Carries Reply.Reports
          (k.directory.client.limit? (s.transport.answer? (rs.length - 1))) (k.perform cmd s).1) ∨
        ∃ e, (k.perform cmd s).1 = .error e ∧ e.api? = none) := by
  obtain ⟨xs, ht⟩ := k.exists_trail cmd s
  refine ⟨_, ht.session.transport.trans (Client.makeAll_transport s xs), ?_⟩
  rcases xs.eq_nil_or_concat with rfl | ⟨ys, x, hxs⟩
  · obtain ⟨cause, hcause⟩ := ht.idle rfl hc
    exact .inr ⟨_, hcause, rfl⟩
  have hlast : ys.length + 1 = xs.length := by simp [hxs]
  rcases hsend : sendable (k.directory.client.tokenAt s ys.length) with e | t
  · have hnone := hs.rateLimit? hsend
    obtain ⟨e', hres, hroot⟩ := ht.refused _ e hlast hsend hnone
    have hlimit : e'.rateLimit? = none := (Error.rateLimit?_of_root hroot).trans hnone
    exact .inr ⟨e', hres, Error.rateLimit?_eq_none.mp hlimit⟩
  · have hall : ∀ i < xs.length, ∃ t, sendable (k.directory.client.tokenAt s i) = .ok t := by
      intro i hi
      by_cases heq : i = ys.length
      · exact ⟨t, heq ▸ hsend⟩
      · exact ht.tokens i (by omega)
    have hlen := Client.length_requestsFor (c := k.directory.client) hall
    have hne : k.directory.client.requestsFor (k.directory.client.tokenAt s) xs ≠ [] := by
      intro hnil
      rw [hnil, List.length_nil] at hlen
      omega
    have hidx : (k.directory.client.requestsFor (k.directory.client.tokenAt s) xs).length - 1 =
        ys.length := by omega
    refine .inl ⟨hne, ?_⟩
    rw [hidx]
    exact ht.answered _ t hlast hsend

/-- **The rate limit travels with the answer.** When a command that contacts the service succeeds,
there is one rate limit among its notes, it is the first of them, and it is that of the last answer
it got, also if that answer was a refusal that was absorbed or the last of many pages. When it fails
with an answer of the service, the error has the rate limit of the last answer, under whatever
labels it passes on. -/
theorem rate_limit_travels (k : Connector) (hs : k.directory.client.FailsApart s)
    (hc : cmd.Contacts) :
    ∃ rs, (k.perform cmd s).2.transport = s.transport.after rs ∧
      (∀ reply, (k.perform cmd s).1 = .ok reply →
        rs ≠ [] ∧ ∃ status headers body arrival rest,
          s.transport.answer? (rs.length - 1) = some (.response status headers body arrival) ∧
          reply.notes = .rateLimit (.ofResponse status (.ofList headers)
            (arrival.instant k.directory.client.now)) :: rest ∧
          ∀ l, .rateLimit l ∉ rest) ∧
      ∀ e api, (k.perform cmd s).1 = .error e → e.api? = some api →
        rs ≠ [] ∧ ∃ status headers body arrival,
          s.transport.answer? (rs.length - 1) = some (.response status headers body arrival) ∧
          ∀ labels, (e.under labels).rateLimit? =
            some (.ofResponse status (.ofList headers)
              (arrival.instant k.directory.client.now)) := by
  obtain ⟨rs, hrs, ⟨hne, hcarries⟩ | ⟨e, he, hnone⟩⟩ := perform_carries (k := k) hs hc
  · refine ⟨rs, hrs, fun reply hr => ⟨hne, ?_⟩, fun e api he hapi => ⟨hne, ?_⟩⟩
    · rw [hr] at hcarries
      obtain ⟨l, hl, rest, hnotes, hrest⟩ := hcarries
      obtain ⟨status, headers, body, arrival, ha, rfl⟩ := Client.limit?_eq_some hl
      exact ⟨status, headers, body, arrival, rest, ha, hnotes, hrest⟩
    · rw [he] at hcarries
      have hl : e.rateLimit? = some api.rateLimit := by simp [Error.rateLimit?, hapi]
      obtain ⟨status, headers, body, arrival, ha, heq⟩ := Client.limit?_eq_some (hcarries _ hl)
      refine ⟨status, headers, body, arrival, ha, fun labels => ?_⟩
      rw [e.rateLimit?_under, hl, heq]
  · refine ⟨rs, hrs, fun reply hr => ?_, fun e' api he' hapi => ?_⟩
    · rw [he] at hr
      cases hr
    · rw [he] at he'
      cases he'
      rw [hnone] at hapi
      cases hapi

end Connector

/-! ### A sample -/

namespace Sample

/-- What is said of a quota that is used up. -/
def quotaHeaders : List (String × String) :=
  [("X-RateLimit-Limit", "10"), ("X-RateLimit-Remaining", "0")]

/-- The answer that someone is in a group already. -/
def duplicateBody : List UInt8 := Utf8.ofString (errorBody "duplicate_user" none).toText

/-- A session without a source, in which that is the answer. -/
def duplicate : Session := .start ⟨[.response 409 quotaHeaders duplicateBody], none, []⟩

lemma failsApart_duplicate :
    (Connector.ofClient client .standard).directory.client.FailsApart duplicate := by
  have hheld : client.tokens = .held ⟨"sl.token", none⟩ := rfl
  exact Client.failsApart_held hheld duplicate

lemma isOk_duplicate :
    ((Connector.ofClient client .standard).perform (.grant .group principal ownership)
      duplicate).1.isOk = true := by
  decide +kernel

end Sample

open Sample in
theorem Connector.rate_limit_travels_absorbed :
    (Connector.ofClient client .standard).directory.client.FailsApart duplicate ∧
      (Command.grant .group principal ownership).Contacts ∧
      ∃ reply rest, ((Connector.ofClient client .standard).perform
          (.grant .group principal ownership) duplicate).1 = .ok reply ∧
        reply.notes = .rateLimit ⟨.overlimit, some 10, some 0, none, none⟩ :: rest ∧
        ∀ l, .rateLimit l ∉ rest := by
  have hc : (Command.grant .group principal ownership).Contacts := nofun
  obtain ⟨rs, hrs, hok, -⟩ :=
    rate_limit_travels (.ofClient client .standard) failsApart_duplicate hc
  have his := isOk_duplicate
  rcases hr : ((Connector.ofClient client .standard).perform
    (.grant .group principal ownership) duplicate).1 with e | reply
  · rw [hr] at his
    cases his
  obtain ⟨hne, status, headers, body, arrival, rest, ha, hnotes, hrest⟩ := hok reply hr
  have hlast : duplicate.transport.answer? (rs.length - 1) =
      some (.response 409 quotaHeaders duplicateBody) := by
    rcases hi : rs.length - 1 with _ | i
    · rfl
    · rw [hi] at ha
      cases ha
  rw [hlast] at ha
  cases ha
  have hlimit : RateLimit.ofResponse 409 (.ofList quotaHeaders) client.now =
      ⟨.overlimit, some 10, some 0, none, none⟩ := by decide +kernel
  refine ⟨failsApart_duplicate, hc, reply, rest, rfl, ?_, hrest⟩
  rw [hnotes, ← hlimit]
  rfl

end TeamSync
