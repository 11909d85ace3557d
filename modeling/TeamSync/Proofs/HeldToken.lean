import TeamSync.Proofs.Arguments
import TeamSync.Proofs.Credentials

/-!
The token that an exchange yields. A connector is made with it whether it can be sent or not, and
this shows with the first call: a token without control characters serves for good, and with any
other token no call is ever made.
-/

namespace TeamSync

/-! ### What can be sent -/

/-- What stands before a token is a header value. -/
lemma isHeaderValue_bearer_eq (t : String) :
    Http.isHeaderValue (bearer t) = Http.isHeaderValue t := by
  have hb : "Bearer ".toList.all Http.isValueChar = true := by decide
  rw [Http.isHeaderValue, bearer, String.toList_append, List.all_append, hb, Bool.true_and,
    Http.isHeaderValue]

namespace Client

variable {c : Client} {cr : Credential} (h : c.tokens = .held cr)

include h

/-- Nothing fails for want of a token while one is held that can be sent. -/
lemma keeping_of_legal (hl : Http.isHeaderValue cr.token = true) :
    c.Keeping (fun _ => True) fun e => ¬e.IsAuthentication where
  noting _ _ _ := trivial
  token _ _ := trivial
  refusal s e _ he := by
    rw [← isHeaderValue_bearer_eq] at hl
    rw [token_held h, sendable_of_legal hl] at he
    cases he
  spend _ _ _ _ _ _ _ := trivial
  outcome _ he := he.not_isAuthentication

lemma sendable_tokenAt_of_illegal (hl : Http.isHeaderValue cr.token = false) (s : Session)
    (i : ℕ) : sendable (c.tokenAt s i) = .error (.authentication .invalidHeaderValue) := by
  rw [← isHeaderValue_bearer_eq] at hl
  rw [tokenAt_held h, sendable_of_illegal hl]

end Client

namespace Connector

variable {k : Connector} {cr : Credential} {s s₁ : Session} {cmd : Command}

section

variable (h : k.directory.client.tokens = .held cr)

include h

/-- A command with a token that can be sent does not fail for want of one. -/
lemma perform_of_legal (hl : Http.isHeaderValue cr.token = true) {e : Error}
    (he : (k.perform cmd s).1 = .error e) : ¬e.IsAuthentication := by
  have hg := k.guarded_perform cmd
  by_cases hm : cmd.Malformed
  · obtain ⟨e', es, hp, hargument⟩ := hg.refuses (not_not.mpr hm) s
    rw [hp] at he
    cases he
    exact hargument.not_isAuthentication
  · exact (hg.keeps hm (Client.keeping_of_legal h hl)).failure trivial e he

/-- A command that comes to the service fails for a token that cannot be sent. -/
lemma perform_of_illegal (hl : Http.isHeaderValue cr.token = false) (hi : ¬cmd.Idle)
    (s : Session) :
    ∃ e, (k.perform cmd s).1 = .error e ∧ e.root = .authentication .invalidHeaderValue := by
  obtain ⟨xs, ht⟩ := k.exists_trail cmd s
  have hne : xs ≠ [] := by
    cases ht.makes with
    | nothing hidle => exact absurd hidle hi
    | one => simp
    | pages => simp [Catalog.calls]
  have hlast : xs.length - 1 + 1 = xs.length := Nat.sub_add_cancel (List.length_pos_iff.mpr hne)
  exact ht.refused _ _ hlast (Client.sendable_tokenAt_of_illegal h hl s _) rfl

/-- With a token that cannot be sent a session sends nothing. -/
lemma play_of_illegal (hl : Http.isHeaderValue cr.token = false) (s : Session) (ts : List Turn) :
    (k.play ts s).2.transport.sent = s.transport.sent := by
  obtain ⟨xs, -, hmade⟩ := k.exists_made s ts
  have hnone : k.directory.client.requestsFor (k.directory.client.tokenAt s) xs = [] := by
    rw [List.eq_nil_iff_forall_not_mem]
    intro r hr
    obtain ⟨i, t, x, -, ht, -⟩ := Client.mem_requestsFor _ hr
    rw [Client.sendable_tokenAt_of_illegal h hl] at ht
    cases ht
  rw [hmade.sent, hnone, List.append_nil]

end

variable {c : Config} {source : Option TokenSource} {now : Instant}

/-- **A token is checked when it is sent.** A connector that is made with a refresh token holds the
token that its exchange yielded. If that is a header value, no command of any session fails for want
of a token. If it is not, no session sends anything any more, and every command that comes to the
service fails for the token. So no command ever fails for it just if it is a header value. -/
theorem held_token_of_connect (h : connect c source now s = (.ok k, s₁))
    (hr : c.usesRefreshToken = true) :
    ∃ headers body arrival cr, s.transport.next? = some (.response 200 headers body arrival) ∧
      RefreshGrant.credentialOf (arrival.instant now) body = .ok cr ∧
      (Http.isHeaderValue cr.token = true →
        ∀ ts e, .error e ∈ (k.play ts s₁).1 → ¬e.IsAuthentication) ∧
      (Http.isHeaderValue cr.token = false →
        ∀ ts, (k.play ts s₁).2.transport.sent = s₁.transport.sent ∧
          ∀ cmd, ¬cmd.Idle → ∃ e, (k.perform cmd (k.play ts s₁).2).1 = .error e ∧
            e.root = .authentication .invalidHeaderValue) ∧
      ((∀ ts e, .error e ∈ (k.play ts s₁).1 → e.root ≠ .authentication .invalidHeaderValue) ↔
        Http.isHeaderValue cr.token = true) := by
  rcases connect_cases h with ⟨-, g, headers, body, arrival, cr, es, -, hn, hcr, hk, -⟩ | ⟨hr', -⟩
  · have hheld : k.directory.client.tokens = .held cr := by rw [hk]; rfl
    have hlegal (hl : Http.isHeaderValue cr.token = true) (ts : List Turn) (e : Error)
        (he : .error e ∈ (k.play ts s₁).1) : ¬e.IsAuthentication := by
      obtain ⟨cmd, w, hw⟩ := exists_perform_of_mem_play he
      exact perform_of_legal hheld hl hw
    refine ⟨headers, body, arrival, cr, hn, hcr, hlegal, ?illegal, ⟨?onlyLegal, ?legal⟩⟩
    case illegal =>
      intro hl ts
      exact ⟨play_of_illegal hheld hl s₁ ts, fun cmd hi => perform_of_illegal hheld hl hi _⟩
    case onlyLegal =>
      intro hall
      by_contra hbad
      rw [Bool.not_eq_true] at hbad
      -- the first listing that comes to the service shows it
      have hi : ¬(Command.list .user none .start).Idle := by
        simp [Command.not_idle_iff, Command.Malformed, Command.Contacts]
      obtain ⟨e, he, hroot⟩ := perform_of_illegal hheld hbad hi s₁
      exact hall [.perform (.list .user none .start)] e (by simp [turn, he]) hroot
    case legal =>
      intro hl ts e he hroot
      exact hlegal hl ts e he ⟨_, hroot⟩
  · rw [hr] at hr'
    cases hr'

end Connector

/-! ### A sample -/

namespace Sample

/-- A session in which an exchange yields some token, and all else is refused. -/
def exchanging (token : String) : Session :=
  .start ⟨[.response 200 [] (Utf8.ofString (tokenAnswer token).toText)],
    some (.response 401 [] []), []⟩

/-- The credential that the exchange then yields. -/
def exchanged (token : String) : Credential := ⟨token, some ⟨1780014400, 0⟩⟩

/-- The connector that is made of it. -/
def holding (token : String) : Connector :=
  .ofClient ⟨Connector.endpoints refreshing, .held (exchanged token), client.now⟩ refreshing

lemma tokens_holding (token : String) :
    (holding token).directory.client.tokens = .held (exchanged token) := rfl

lemma connect_exchanging {token : String}
    (h : RefreshGrant.credentialOf client.now (Utf8.ofString (tokenAnswer token).toText) =
      .ok (exchanged token)) :
    ∃ s₁, Connector.connect refreshing none client.now (exchanging token) =
      (.ok (holding token), s₁) := by
  have hn : (exchanging token).transport.next? =
      some (.response 200 [] (Utf8.ofString (tokenAnswer token).toText)) := rfl
  rw [Connector.connect_of_refresh none client.now _ rfl rfl rfl, hn]
  simp [RefreshGrant.receive, h, Except.map, holding]

end Sample

open Sample in
theorem Connector.held_token_of_connect_legal :
    ∃ k s₁, connect refreshing none client.now (exchanging "sl.new") = (.ok k, s₁) ∧
      refreshing.usesRefreshToken = true ∧
      ∀ ts e, .error e ∈ (k.play ts s₁).1 → ¬e.IsAuthentication := by
  have hcr : RefreshGrant.credentialOf client.now (Utf8.ofString (tokenAnswer "sl.new").toText) =
      .ok (exchanged "sl.new") := by decide +kernel
  obtain ⟨s₁, h⟩ := connect_exchanging hcr
  obtain ⟨headers, body, arrival, cr, hn, hbody, hlegal, -⟩ := held_token_of_connect h rfl
  obtain ⟨rfl, rfl⟩ : Utf8.ofString (tokenAnswer "sl.new").toText = body ∧ none = arrival := by
    cases hn
    exact ⟨rfl, rfl⟩
  rw [Arrival.instant_none, hcr] at hbody
  cases hbody
  have hl : Http.isHeaderValue (exchanged "sl.new").token = true := by decide +kernel
  exact ⟨_, s₁, h, rfl, hlegal hl⟩

open Sample in
/-- A token with a line break is accepted, and then the first listing fails for it. -/
theorem Connector.held_token_fails :
    ∃ k s₁ e, connect refreshing none client.now (exchanging "sl.new\n") = (.ok k, s₁) ∧
      .error e ∈ (k.play [.perform (.list .group none .start)] s₁).1 ∧
      e.root = .authentication .invalidHeaderValue := by
  have hcr : RefreshGrant.credentialOf client.now (Utf8.ofString (tokenAnswer "sl.new\n").toText) =
      .ok (exchanged "sl.new\n") := by decide +kernel
  obtain ⟨s₁, h⟩ := connect_exchanging hcr
  have hl : Http.isHeaderValue (exchanged "sl.new\n").token = false := by decide +kernel
  have hi : ¬(Command.list .group none .start).Idle := by
    simp [Command.not_idle_iff, Command.Malformed, Command.Contacts]
  obtain ⟨e, he, hroot⟩ := perform_of_illegal (tokens_holding _) hl hi s₁
  exact ⟨_, s₁, e, h, by simp [turn, he], hroot⟩

end TeamSync
