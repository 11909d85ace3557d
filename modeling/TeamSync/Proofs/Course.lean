import TeamSync.Proofs.Setup
import TeamSync.Proofs.Trail

/-!
Whole sessions: a connector is made, and then a host takes turns with it while answers come in.
Whatever the turns are, what they do to a session is what some calls do, made one after the other.
-/

namespace TeamSync

/-! ### Making a connector -/

namespace RefreshGrant

/-- When the token of an answer expires, if the answer says so. -/
def lifetime (now : Instant) (a : TokenAnswer) : Except Error (Option Instant) :=
  match a.expiresIn with
  | some n => (expiry now n).map some
  | none => .ok none

/-- An answer that is understood makes a credential if it has a token and a time to live. -/
lemma credentialOf_of_decode {body : List UInt8} {a : TokenAnswer}
    (h : TokenAnswer.record.decoder.decode body = .ok a) (ht : a.token ≠ "") (now : Instant) :
    credentialOf now body = (lifetime now a).map fun t => ⟨a.token, t⟩ := by
  simp only [credentialOf, h, bind, Except.bind, ht, if_false, lifetime, pure, Except.pure]
  rcases a.expiresIn with _ | n
  · rfl
  · rcases expiry now n with _ | _ <;> rfl

/-- What an exchange comes to when its request gets an answer, and what is logged of that. -/
def receive (url : String) (now : Instant) : Option Answer → Except Error Credential × List Event
  | none => (.error (.network (.connectionFailed ("no mock response queued for " ++ url))), [])
  | some (.failure cause) => (.error (.network cause), [])
  | some (.response status _ body arrival) =>
    if status ≠ 200 then
      (.error (.authentication (.exchangeRefused status)), [⟨.warn, "Token exchange rejected",
        [("status", .count status), ("body", .text (Log.excerpt body))], []⟩])
    else
      match credentialOf (arrival.instant now) body with
      | .ok c => (.ok c, [⟨.debug, "Access token obtained", [("token", .text (Log.redact c.token))],
        [("expires_at", c.expiresAt)]⟩])
      | .error e => (.error e, [])

/-- **An exchange is one request**, and all else is a function of its answer. -/
theorem exchange_apply {g : RefreshGrant} (h : g.refreshToken ≠ "") (now : Instant) (s : Session) :
    g.exchange now s =
      ((receive g.tokenUrl now s.transport.next?).1,
        s.spend g.request (receive g.tokenUrl now s.transport.next?).2) := by
  have hsend : Step.send g.request s = ((s.transport.send g.request).1, s.spend g.request []) :=
    Step.send_apply g.request s
  rw [exchange, if_neg h]
  rcases hn : s.transport.next? with _ | ⟨status, headers, body, arrival⟩ | cause <;>
    simp only [Transport.send, hn] at hsend
  · rw [Step.bind_of_error hsend]
    rfl
  · rw [Step.bind_of_ok hsend]
    by_cases hs : status = 200
    · rcases hc : credentialOf (arrival.instant now) body with e | cr
      · simp [receive, hs, hc, Step.bind_apply]
      · simp [receive, hs, hc, Step.bind_apply, Step.map_apply, Session.noting_spend, Except.map]
    · simp [receive, hs, Step.bind_apply, Session.noting_spend]
  · rw [Step.bind_of_error hsend]
    rfl

lemma credentialOf_of_receive {url : String} {now : Instant} {a : Option Answer} {cr : Credential}
    (h : (receive url now a).1 = .ok cr) :
    ∃ headers body arrival, a = some (.response 200 headers body arrival) ∧
      credentialOf (arrival.instant now) body = .ok cr := by
  rcases a with _ | ⟨status, headers, body, arrival⟩ | cause
  · cases h
  · by_cases hs : status = 200
    · subst hs
      rcases hc : credentialOf (arrival.instant now) body with e | cr'
      · simp [receive, hc] at h
      · obtain rfl : cr' = cr := by simpa [receive, hc] using h
        exact ⟨headers, body, arrival, rfl, hc⟩
    · simp [receive, hs] at h
  · cases h

end RefreshGrant

namespace Connector

variable {c : Config} {source : Option TokenSource} {now : Instant} {s s₁ : Session} {k : Connector}

/-- The endpoints of a configuration. -/
def endpoints (c : Config) : Endpoints := .ofBase c.baseUrl

lemma connect_of_invalid {e : Error} (h : c.validate = .error e) :
    connect c source now s = (.error e, s) := by
  rw [connect, Step.bind_of_error (by rw [Step.ofExcept_apply, h])]

/-- With a refresh token a connector is made by one exchange, and the source is left alone. -/
lemma connect_of_refresh (source : Option TokenSource) (now : Instant) (s : Session)
    (hv : c.validate = .ok ()) {g : RefreshGrant} (hr : c.usesRefreshToken = true)
    (hg : grantOf c (endpoints c) = .ok g) :
    connect c source now s =
      ((RefreshGrant.receive g.tokenUrl now s.transport.next?).1.map
          fun cr => ofClient ⟨endpoints c, .held cr, now⟩ c,
        s.spend g.request (⟨.info, "Using refresh-token credentials", [], []⟩ ::
          (RefreshGrant.receive g.tokenUrl now s.transport.next?).2)) := by
  have hne : g.refreshToken ≠ "" := by
    unfold grantOf at hg
    split at hg
    · rename_i secret token hsec htok
      cases hg
      simpa [Config.usesRefreshToken, Config.isPresent, htok] using hr
    · cases hg
  have hx := g.exchange_apply hne now
    (s.noting [⟨.info, "Using refresh-token credentials", [], []⟩])
  rw [Session.noting_transport] at hx
  have htok : tokens c (endpoints c) source now s =
      ((RefreshGrant.receive g.tokenUrl now s.transport.next?).1.map TokenProvider.held,
        s.spend g.request (⟨.info, "Using refresh-token credentials", [], []⟩ ::
          (RefreshGrant.receive g.tokenUrl now s.transport.next?).2)) := by
    unfold tokens
    rw [if_pos hr, hg, Step.ofExcept_ok, pure_bind, Step.bind_of_ok (Step.log_apply ..),
      Step.bind_apply, hx]
    rcases (RefreshGrant.receive g.tokenUrl now s.transport.next?).1 with e | cr <;>
      simp [Except.map, Session.spend, Session.noting]
  rw [connect, Step.bind_of_ok (by rw [Step.ofExcept_apply, hv])]
  rcases hrec : (RefreshGrant.receive g.tokenUrl now s.transport.next?).1 with e | cr <;>
    rw [hrec] at htok
  · exact Step.bind_of_error htok _
  · exact Step.bind_of_ok htok _

/-- Without one it is made of the source that is given, and nothing is sent. -/
lemma connect_of_source (hv : c.validate = .ok ()) (hr : c.usesRefreshToken = false)
    (src : TokenSource) :
    connect c (some src) now s =
      (.ok (ofClient ⟨endpoints c, .external, now⟩ c),
        { s with source := some src }.noting [⟨.info, "Using external token source", [], []⟩]) := by
  rw [connect, Step.bind_of_ok (by rw [Step.ofExcept_apply, hv])]
  have htok : tokens c (endpoints c) (some src) now s =
      (.ok .external,
        { s with source := some src }.noting [⟨.info, "Using external token source", [], []⟩]) := by
    unfold tokens
    rw [if_neg (by simp [hr])]
    rfl
  exact Step.bind_of_ok htok _

lemma connect_of_none (hv : c.validate = .ok ()) (hr : c.usesRefreshToken = false) :
    connect c none now s = (.error (.configuration .missingCredential), s) := by
  rw [connect, Step.bind_of_ok (by rw [Step.ofExcept_apply, hv])]
  have htok : tokens c (endpoints c) none now s =
      (.error (.configuration .missingCredential), s) := by
    unfold tokens
    rw [if_neg (by simp [hr])]
    rfl
  exact Step.bind_of_error htok _

/-- A valid configuration with a refresh token asks for an exchange. -/
lemma grantOf_of_valid (hv : c.validate = .ok ()) (hr : c.usesRefreshToken = true) (e : Endpoints) :
    ∃ secret token, c.appSecret = some secret ∧ c.refreshToken = some token ∧
      grantOf c e = .ok ⟨e.tokenUrl, c.appKey, secret, token⟩ := by
  obtain ⟨token, ht⟩ : ∃ token, c.refreshToken = some token := by
    rcases h : c.refreshToken with _ | token
    · simp [Config.usesRefreshToken, Config.isPresent, h] at hr
    · exact ⟨token, rfl⟩
  obtain ⟨secret, hs⟩ : ∃ secret, c.appSecret = some secret := by
    rcases h : c.appSecret with _ | secret
    · simp only [Config.validate, hr, h, Config.isPresent] at hv
      split_ifs at hv
      simp_all
    · exact ⟨secret, rfl⟩
  exact ⟨secret, token, hs, ht, by simp only [grantOf, hs, ht]⟩

/-- **How a connector is made**: by an exchange that is answered with a credential, or of a source
that is taken into the session. -/
theorem connect_cases (h : connect c source now s = (.ok k, s₁)) :
    (c.usesRefreshToken = true ∧ ∃ g headers body arrival cr es,
      g.tokenUrl = (endpoints c).tokenUrl ∧
      s.transport.next? = some (.response 200 headers body arrival) ∧
      RefreshGrant.credentialOf (arrival.instant now) body = .ok cr ∧
      k = ofClient ⟨endpoints c, .held cr, now⟩ c ∧ s₁ = s.spend (RefreshGrant.request g) es) ∨
    (c.usesRefreshToken = false ∧ ∃ src es, source = some src ∧
      k = ofClient ⟨endpoints c, .external, now⟩ c ∧
      s₁ = { s with source := some src }.noting es) := by
  rcases hv : c.validate with e | v
  · rw [connect_of_invalid hv] at h
    cases h
  rcases hr : c.usesRefreshToken with _ | _
  · rcases source with _ | src
    · rw [connect_of_none hv hr] at h
      cases h
    · rw [connect_of_source hv hr] at h
      cases h
      exact .inr ⟨rfl, src, _, rfl, rfl, rfl⟩
  · obtain ⟨secret, token, -, -, hg⟩ := grantOf_of_valid hv hr (endpoints c)
    rw [connect_of_refresh source now s hv hr hg] at h
    rcases hrec : (RefreshGrant.receive (endpoints c).tokenUrl now s.transport.next?).1 with e | cr
    · simp [hrec, Except.map] at h
    · obtain ⟨headers, body, arrival, hn, hc⟩ := RefreshGrant.credentialOf_of_receive hrec
      simp only [hrec, Except.map, Prod.mk.injEq, Except.ok.injEq] at h
      obtain ⟨rfl, rfl⟩ := h
      exact .inl ⟨rfl, _, headers, body, arrival, cr, _, rfl, hn, hc, rfl, rfl⟩

end Connector

/-! ### Turns -/

/-- A turn with a connector: a host has something done, or answers of the service come in. -/
inductive Turn where
  | perform (cmd : Command)
  | enqueue (as : List Answer)
  | setStanding (a : Answer)

namespace Connector

/-- The session after a turn, and the reply if there was something to be done. -/
def turn (k : Connector) (s : Session) : Turn → List (Except Error Reply) × Session
  | .perform cmd => ([(k.perform cmd s).1], (k.perform cmd s).2)
  | .enqueue as => ([], { s with transport := s.transport.enqueue as })
  | .setStanding a => ([], { s with transport := s.transport.setStanding a })

/-- The replies of some turns, in order, and the session after them. -/
def play (k : Connector) : List Turn → Session → List (Except Error Reply) × Session
  | [], s => ([], s)
  | t :: ts, s =>
    ((k.turn s t).1 ++ (k.play ts (k.turn s t).2).1, (k.play ts (k.turn s t).2).2)

@[simp] lemma play_nil (k : Connector) (s : Session) : k.play [] s = ([], s) := rfl

@[simp] lemma play_cons (k : Connector) (t : Turn) (ts : List Turn) (s : Session) :
    k.play (t :: ts) s =
      ((k.turn s t).1 ++ (k.play ts (k.turn s t).2).1, (k.play ts (k.turn s t).2).2) := rfl

/-- Every reply of a session is what some command comes to in some session. -/
lemma exists_perform_of_mem_play {k : Connector} {s : Session} {r : Except Error Reply}
    {ts : List Turn} (h : r ∈ (k.play ts s).1) : ∃ cmd w, (k.perform cmd w).1 = r := by
  induction ts generalizing s with
  | nil => cases h
  | cons t ts ih =>
    rw [play_cons, List.mem_append] at h
    rcases h with h | h
    · cases t with
      | perform cmd => exact ⟨cmd, s, (List.mem_singleton.mp h).symm⟩
      | enqueue => cases h
      | setStanding => cases h
    · exact ih h

end Connector

/-! ### The calls of a session -/

namespace Client

variable {c : Client} {s u v : Session} {xs ys : List Call}

lemma token_asked_congr (hs : s.source = u.source) (ha : s.asked = u.asked) :
    (c.token s).2.asked = (c.token u).2.asked := by
  rcases ht : c.tokens with cr | _
  · rw [token_held ht, token_held ht]
    exact ha
  · rw [token_external ht, token_external ht]
    rcases hsrc : s.source with _ | src <;> simp [Step.askSource, ← hs, hsrc, ha]

/-- What some calls leave of a source depends on the source alone. -/
lemma makeAll_congr (hs : s.source = u.source) (ha : s.asked = u.asked) (xs : List Call) :
    (c.makeAll s xs).source = (c.makeAll u xs).source ∧
      (c.makeAll s xs).asked = (c.makeAll u xs).asked := by
  induction xs generalizing s u with
  | nil => exact ⟨hs, ha⟩
  | cons x xs ih =>
    refine ih ?_ ?_
    · rw [make_source, make_source]
      exact (c.token_congr hs).2
    · rw [make_asked, make_asked]
      exact token_asked_congr hs ha

lemma makeAll_append (s : Session) (xs ys : List Call) :
    c.makeAll s (xs ++ ys) = c.makeAll (c.makeAll s xs) ys := by
  simp [makeAll]

lemma tokenAt_makeAll (s : Session) (xs : List Call) (i : ℕ) :
    c.tokenAt (c.makeAll s xs) i = c.tokenAt s (xs.length + i) := by
  induction xs generalizing s i with
  | nil => simp
  | cons x xs ih =>
    rw [makeAll_cons, ih, tokenAt_make, List.length_cons]
    congr 1
    omega

lemma requestsFor_append (ts : ℕ → Except Error String) (xs ys : List Call) :
    c.requestsFor ts (xs ++ ys) =
      c.requestsFor ts xs ++ c.requestsFor (fun i => ts (xs.length + i)) ys := by
  induction xs generalizing ts with
  | nil => simp
  | cons x xs ih =>
    have hlen : (fun i => ts (xs.length + i + 1)) = fun i => ts ((x :: xs).length + i) := by
      funext i
      rw [List.length_cons, Nat.add_right_comm]
    rw [List.cons_append, requestsFor_cons, requestsFor_cons, ih, hlen, List.append_assoc]

/-- Between two sessions some calls were made. Answers may have come in as well. -/
structure Made (c : Client) (s : Session) (xs : List Call) (u : Session) : Prop where
  sent : u.transport.sent = s.transport.sent ++ c.requestsFor (c.tokenAt s) xs
  source : u.source = (c.makeAll s xs).source
  asked : u.asked = (c.makeAll s xs).asked

lemma Made.nil (h : u.transport.sent = s.transport.sent) (hs : u.source = s.source)
    (ha : u.asked = s.asked) : c.Made s [] u :=
  ⟨by simp [h], hs, ha⟩

lemma Made.of_alike (h : u.Alike (c.makeAll s xs)) : c.Made s xs u := by
  refine ⟨?_, h.source, h.asked⟩
  rw [h.transport, makeAll_transport]
  rfl

lemma Made.tokenAt (h : c.Made s xs u) (i : ℕ) : c.tokenAt u i = c.tokenAt s (xs.length + i) := by
  rw [← tokenAt_makeAll]
  exact c.tokenAt_congr h.source i

lemma Made.trans (h : c.Made s xs u) (h' : c.Made u ys v) : c.Made s (xs ++ ys) v := by
  obtain ⟨hsrc, hask⟩ := makeAll_congr (c := c) h.source h.asked ys
  refine ⟨?_, ?_, ?_⟩
  · have ht : c.tokenAt u = fun i => c.tokenAt s (xs.length + i) := funext h.tokenAt
    rw [h'.sent, h.sent, ht, requestsFor_append, List.append_assoc]
  · rw [h'.source, hsrc, makeAll_append]
  · rw [h'.asked, hask, makeAll_append]

end Client

namespace Connector

variable {k : Connector} {s : Session}

/-- A turn makes some calls, with bodies that are parsed as objects. -/
lemma exists_made_turn (k : Connector) (s : Session) (t : Turn) :
    ∃ xs, (∀ x ∈ xs, x.body.Readable) ∧ k.directory.client.Made s xs (k.turn s t).2 := by
  cases t with
  | perform cmd =>
    obtain ⟨xs, ht⟩ := k.exists_trail cmd s
    exact ⟨xs, ht.readable, .of_alike ht.session⟩
  | enqueue as => exact ⟨[], by simp, .nil rfl rfl rfl⟩
  | setStanding a => exact ⟨[], by simp, .nil rfl rfl rfl⟩

/-- **A session is some calls**, whatever the turns are. -/
theorem exists_made (k : Connector) (s : Session) (ts : List Turn) :
    ∃ xs, (∀ x ∈ xs, x.body.Readable) ∧ k.directory.client.Made s xs (k.play ts s).2 := by
  induction ts generalizing s with
  | nil => exact ⟨[], by simp, .nil rfl rfl rfl⟩
  | cons t ts ih =>
    obtain ⟨xs, hxs, hturn⟩ := k.exists_made_turn s t
    obtain ⟨ys, hys, hrest⟩ := ih (k.turn s t).2
    refine ⟨xs ++ ys, fun x hx => ?_, hturn.trans hrest⟩
    rcases List.mem_append.mp hx with hx | hx
    · exact hxs x hx
    · exact hys x hx

end Connector

end TeamSync
