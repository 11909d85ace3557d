import TeamSync.Proofs.Course

/-!
Where the tokens of a session come from. With a refresh token there is one exchange, and its token
is used for good. Without one the source is asked for every call, and nothing that it yields is used
twice.
-/

namespace TeamSync

/-! ### Authorization -/

/-- The tokens that can be sent among the first that are yielded, in order. -/
def sendables (ts : ℕ → Except Error String) (n : ℕ) : List String :=
  (List.range n).filterMap fun i => (sendable (ts i)).toOption

lemma sendables_succ (ts : ℕ → Except Error String) (n : ℕ) :
    sendables ts (n + 1) =
      (sendable (ts 0)).toOption.toList ++ sendables (fun i => ts (i + 1)) n := by
  rw [sendables, List.range_succ_eq_map, List.filterMap_cons, List.filterMap_map]
  rcases sendable (ts 0) with e | t <;> simp [Except.toOption, sendables, Function.comp_def]

/-- What a request says about who sends it. -/
def Http.Request.authorization? (r : Request) : Option String := r.headers.get? "authorization"

/-- A token that can be read is recorded as it was sent. -/
lemma readable_bearer {t : String} (h : Http.isReadable t = true) :
    Http.readable (bearer t) = bearer t := by
  have hscheme : Http.isReadable "Bearer " = true := by decide
  rw [Http.isReadable] at h hscheme
  rw [Http.readable, bearer, Http.isReadable, String.toList_append, List.all_append, hscheme, h]
  rfl

namespace Client

variable (c : Client) {ts : ℕ → Except Error String} {xs : List Call} {r : Http.Request}

@[simp] lemma authorization?_requestOf (op : Operation) (t : String) (body : Json.Value) :
    (c.requestOf op t body).authorization? = some (bearer t) := by
  simp [Http.Request.authorization?, requestOf, Http.Headers.get?]

@[simp] lemma header?_requestOf (op : Operation) (t : String) (body : Json.Value) :
    (c.requestOf op t body).header? "authorization" = some (Http.readable (bearer t)) := by
  simp [Http.Request.header?, requestOf]

/-- **The requests of some calls carry the tokens that can be sent**, in order: what is made of a
request is what is made of its token. -/
theorem map_requestsFor {β : Type} {f : Http.Request → β} {g : String → β}
    (h : ∀ op t body, f (c.requestOf op t body) = g t) (ts : ℕ → Except Error String)
    (xs : List Call) : (c.requestsFor ts xs).map f = (sendables ts xs.length).map g := by
  induction xs generalizing ts with
  | nil => rfl
  | cons x xs ih =>
    rw [requestsFor_cons, List.map_append, ih, List.length_cons, sendables_succ, List.map_append]
    rcases ht : sendable (ts 0) with e | t
    · rw [requestFor?_of_error ht]
      rfl
    · rw [requestFor?_of_ok ht]
      simp [Except.toOption, h]

/-- Every request of some calls is that of one of them, with a token that can be sent. -/
lemma mem_requestsFor (h : r ∈ c.requestsFor ts xs) :
    ∃ i t, ∃ x ∈ xs, sendable (ts i) = .ok t ∧ r = c.requestOf x.op t x.body := by
  induction xs generalizing ts with
  | nil => cases h
  | cons x xs ih =>
    rw [requestsFor_cons, List.mem_append] at h
    rcases h with h | h
    · rcases hs : sendable (ts 0) with e | t
      · rw [requestFor?_of_error hs] at h
        cases h
      · rw [requestFor?_of_ok hs] at h
        obtain rfl : r = c.requestOf x.op t x.body := by simpa using h
        exact ⟨0, t, x, List.mem_cons_self, hs, rfl⟩
    · obtain ⟨i, t, y, hy, hs, hr⟩ := ih h
      exact ⟨i + 1, t, y, List.mem_cons_of_mem x hy, hs, hr⟩

end Client

/-- No operation is found where tokens are exchanged. -/
lemma Endpoints.url_ne_tokenUrl (e : Endpoints) (op : Operation) : e.url op ≠ e.tokenUrl := by
  intro h
  have hp : op.path.toList = tokenPath.toList := by
    have hl := congrArg String.toList h
    simpa [url, tokenUrl] using hl
  have hne : op.path.toList ≠ tokenPath.toList := by cases op <;> decide
  exact hne hp

lemma Client.url_ne_tokenUrl {c : Client} {ts : ℕ → Except Error String} {xs : List Call}
    {r : Http.Request} (h : r ∈ c.requestsFor ts xs) : r.url ≠ c.endpoints.tokenUrl := by
  obtain ⟨i, t, x, -, -, rfl⟩ := c.mem_requestsFor h
  exact c.endpoints.url_ne_tokenUrl x.op

/-! ### One call -/

namespace Client

variable {c : Client} {s : Session} {src : TokenSource} {x : Call}

/-- A call asks the source once. Without a token that can be sent it fails for that reason and sends
nothing, and otherwise it sends its request. -/
lemma execute_external (h : c.tokens = .external) (hs : s.source = some src) (x : Call) :
    (c.execute x.op (some x.body) s).2.asked = s.asked + 1 ∧
      (c.execute x.op (some x.body) s).2.source = some src.advance ∧
      (∀ e, sendable src.current = .error e →
        (c.execute x.op (some x.body) s).1 = .error e ∧
          (c.execute x.op (some x.body) s).2.transport = s.transport) ∧
      ∀ t, sendable src.current = .ok t →
        (c.execute x.op (some x.body) s).2.transport =
          s.transport.after [c.requestOf x.op t x.body] := by
  have ht : c.token s =
      (src.current, { s with source := some src.advance, asked := s.asked + 1 }) := by
    simp only [token_external h, Step.askSource, hs]
  have hmake : (c.execute x.op (some x.body) s).2 = c.make s x := rfl
  refine ⟨?_, ?_, fun e he => ⟨?_, ?_⟩, fun t hok => ?_⟩
  · rw [hmake, make_asked, ht]
  · rw [hmake, make_source, ht]
  · rw [execute_eq_visit, visit_of_error (by rw [ht]; exact he)]
  · rw [hmake, make_transport, requestFor?_of_error (by rw [ht]; exact he)]
    simp [Transport.after]
  · rw [hmake, make_transport, requestFor?_of_ok (by rw [ht]; exact hok)]
    rfl

end Client

/-! ### Whole sessions -/

lemma TokenSource.nth_iterate (src : TokenSource) (n i : ℕ) :
    (advance^[n] src).nth i = src.nth (n + i) := by
  rw [nth, nth, ← Function.iterate_add_apply, Nat.add_comm]

namespace Connector

variable {k : Connector} {s : Session}

/-- With a token that is held, no source is asked and every request carries that token. -/
lemma play_held {cr : Credential} (h : k.directory.client.tokens = .held cr) (s : Session)
    (ts : List Turn) :
    (k.play ts s).2.source = s.source ∧ (k.play ts s).2.asked = s.asked ∧
      ∃ later, (k.play ts s).2.transport.sent = s.transport.sent ++ later ∧
        ∀ r ∈ later, r.url ≠ k.directory.client.endpoints.tokenUrl ∧
          r.authorization? = some (bearer cr.token) ∧
          r.header? "authorization" = some (Http.readable (bearer cr.token)) := by
  obtain ⟨xs, -, hmade⟩ := k.exists_made s ts
  obtain ⟨hsrc, hask⟩ := Client.makeAll_held h s xs
  refine ⟨hmade.source.trans hsrc, hmade.asked.trans hask, _, hmade.sent,
    fun r hr => ⟨Client.url_ne_tokenUrl hr, ?_⟩⟩
  obtain ⟨i, t, x, -, ht, rfl⟩ := Client.mem_requestsFor _ hr
  rw [Client.tokenAt_held h] at ht
  obtain ⟨ht, -⟩ := sendable_eq_ok.mp ht
  cases ht
  exact ⟨Client.authorization?_requestOf .., Client.header?_requestOf ..⟩

/-- With a source, the tokens that were asked for and can be sent are those of the requests. -/
lemma play_external {src : TokenSource} (h : k.directory.client.tokens = .external)
    (hs : s.source = some src) (ts : List Turn) :
    ∃ n later, (k.play ts s).2.source = some (TokenSource.advance^[n] src) ∧
      (k.play ts s).2.asked = s.asked + n ∧
      (k.play ts s).2.transport.sent = s.transport.sent ++ later ∧
      later.map Http.Request.authorization? =
        (sendables src.nth n).map (fun t => some (bearer t)) ∧
      later.map (·.header? "authorization") =
        (sendables src.nth n).map (fun t => some (Http.readable (bearer t))) ∧
      ∀ r ∈ later, r.url ≠ k.directory.client.endpoints.tokenUrl := by
  obtain ⟨xs, -, hmade⟩ := k.exists_made s ts
  obtain ⟨hsrc, hask⟩ := Client.makeAll_external h hs xs
  have htok : k.directory.client.tokenAt s = src.nth := funext (Client.tokenAt_external h hs)
  have hsent := hmade.sent
  rw [htok] at hsent
  exact ⟨xs.length, _, hmade.source.trans hsrc, hmade.asked.trans hask, hsent,
    Client.map_requestsFor _ (Client.authorization?_requestOf _) _ xs,
    Client.map_requestsFor _ (Client.header?_requestOf _) _ xs,
    fun r hr => Client.url_ne_tokenUrl hr⟩

/-- A command asks the source once for each of its calls, and ends with a token that cannot be
sent. -/
lemma perform_external {src : TokenSource} (h : k.directory.client.tokens = .external)
    (hs : s.source = some src) (cmd : Command) :
    ∃ xs, k.Makes s cmd xs ∧ (k.perform cmd s).2.asked = s.asked + xs.length ∧
      (k.perform cmd s).2.transport.sent =
        s.transport.sent ++ k.directory.client.requestsFor src.nth xs ∧
      ∀ i e, i < xs.length → sendable (src.nth i) = .error e →
        i + 1 = xs.length ∧ (e.rateLimit? = none → ∃ e', (k.perform cmd s).1 = .error e') := by
  obtain ⟨xs, ht⟩ := k.exists_trail cmd s
  have hmade := Client.Made.of_alike ht.session
  obtain ⟨-, hask⟩ := Client.makeAll_external h hs xs
  have htok : k.directory.client.tokenAt s = src.nth := funext (Client.tokenAt_external h hs)
  have hsent := hmade.sent
  rw [htok] at hsent
  refine ⟨xs, ht.makes, hmade.asked.trans hask, hsent, fun i e hi he => ?_⟩
  rw [← htok] at he
  have hlast : i + 1 = xs.length := by
    by_contra hlt
    obtain ⟨t, hok⟩ := ht.tokens i (by omega)
    rw [he] at hok
    cases hok
  refine ⟨hlast, fun hn => ?_⟩
  obtain ⟨e', hres, -⟩ := ht.refused i e hlast he hn
  exact ⟨e', hres⟩

variable {c : Config} {source : Option TokenSource} {now : Instant} {s₁ : Session}

/-- **The credentials of a session.** A connector that is made with a refresh token has sent one
exchange, which was accepted. Whatever is done with it then, no other request goes there, all later
requests carry the token of that exchange, and no source is asked. A connector that is made without
one never sends an exchange. The tokens that it has asked its source for, as far as they can be
sent, are those that its requests carry, in order. A command that comes next asks for one token for
each of its calls. One that cannot be sent is asked for by the last call and is no request. It ends
the command with an error, unless the source failed with an error that has a rate limit: such an
error is one of the service, and a mutation may take it for success. Every single call fails when
its token cannot be sent, for that reason and without a request, and a call without a body asks for
nothing. A token that can be read is recorded as it was sent. -/
theorem credentials_of_sessions (h : connect c source now s = (.ok k, s₁)) (ts : List Turn) :
    (c.usesRefreshToken = true →
      (k.play ts s₁).2.source = s.source ∧ (k.play ts s₁).2.asked = s.asked ∧
      ∃ headers body arrival cr exchange later,
        s.transport.next? = some (.response 200 headers body arrival) ∧
        RefreshGrant.credentialOf (arrival.instant now) body = .ok cr ∧
        (k.play ts s₁).2.transport.sent = s.transport.sent ++ exchange :: later ∧
        exchange.url = (endpoints c).tokenUrl ∧
        ∀ r ∈ later, r.url ≠ (endpoints c).tokenUrl ∧
          r.authorization? = some (bearer cr.token) ∧
          r.header? "authorization" = some (Http.readable (bearer cr.token))) ∧
    (c.usesRefreshToken = false → ∃ src n later, source = some src ∧
      (k.play ts s₁).2.asked = s.asked + n ∧
      (k.play ts s₁).2.transport.sent = s.transport.sent ++ later ∧
      later.map Http.Request.authorization? =
        (sendables src.nth n).map (fun t => some (bearer t)) ∧
      later.map (·.header? "authorization") =
        (sendables src.nth n).map (fun t => some (Http.readable (bearer t))) ∧
      (∀ r ∈ later, r.url ≠ (endpoints c).tokenUrl) ∧
      ∀ cmd, ∃ xs, k.Makes (k.play ts s₁).2 cmd xs ∧
        (k.perform cmd (k.play ts s₁).2).2.asked = (k.play ts s₁).2.asked + xs.length ∧
        (k.perform cmd (k.play ts s₁).2).2.transport.sent = (k.play ts s₁).2.transport.sent ++
          k.directory.client.requestsFor (fun i => src.nth (n + i)) xs ∧
        ∀ i e, i < xs.length → sendable (src.nth (n + i)) = .error e →
          i + 1 = xs.length ∧
          (e.rateLimit? = none → ∃ e', (k.perform cmd (k.play ts s₁).2).1 = .error e')) ∧
    (c.usesRefreshToken = false → ∀ (w : Session) (src : TokenSource), w.source = some src →
      ∀ x : Call,
        (k.directory.client.execute x.op (some x.body) w).2.asked = w.asked + 1 ∧
        (k.directory.client.execute x.op (some x.body) w).2.source = some src.advance ∧
        (∀ e, sendable src.current = .error e →
          (k.directory.client.execute x.op (some x.body) w).1 = .error e ∧
          (k.directory.client.execute x.op (some x.body) w).2.transport = w.transport) ∧
        ∀ t, sendable src.current = .ok t →
          (k.directory.client.execute x.op (some x.body) w).2.transport =
            w.transport.after [k.directory.client.requestOf x.op t x.body]) ∧
    (∀ (op : Operation) (w : Session), (k.directory.client.execute op none w).2 = w) ∧
    ∀ t, Http.isReadable t = true → Http.readable (bearer t) = bearer t := by
  rcases connect_cases h with ⟨hr, g, headers, body, arrival, cr, es, hg, hn, hcr, hk, hs₁⟩ |
    ⟨hr, src, es, hsrc, hk, hs₁⟩
  · have hheld : k.directory.client.tokens = .held cr := by rw [hk]; rfl
    have hend : k.directory.client.endpoints = endpoints c := by rw [hk]; rfl
    obtain ⟨hsource, hasked, later, hsent, hlater⟩ := play_held hheld s₁ ts
    rw [hend] at hlater
    refine ⟨fun _ => ?_, by simp [hr], by simp [hr], fun op w => rfl, fun t => readable_bearer⟩
    refine ⟨by rw [hsource, hs₁, Session.spend_source], by rw [hasked, hs₁, Session.spend_asked],
      headers, body, arrival, cr, g.request, later, hn, hcr, ?_, hg, hlater⟩
    rw [hsent, hs₁, Session.spend_sent, List.append_assoc]
    rfl
  · have hext : k.directory.client.tokens = .external := by rw [hk]; rfl
    have hend : k.directory.client.endpoints = endpoints c := by rw [hk]; rfl
    have hsource : s₁.source = some src := by rw [hs₁]; rfl
    obtain ⟨n, later, hsrc', hasked, hsent, hauth, hseen, hurl⟩ := play_external hext hsource ts
    rw [hend] at hurl
    refine ⟨by simp [hr],
      fun _ => ⟨src, n, later, hsrc, ?_, ?_, hauth, hseen, hurl, fun cmd => ?_⟩,
      fun _ w src' hw x => Client.execute_external hext hw x, fun op w => rfl,
      fun t => readable_bearer⟩
    · rw [hasked, hs₁, Session.noting_asked]
    · rw [hsent, hs₁, Session.noting_transport]
    · obtain ⟨xs, hmakes, hask, hreq, hbad⟩ := perform_external hext hsrc' cmd
      have hnth : (TokenSource.advance^[n] src).nth = fun i => src.nth (n + i) :=
        funext (src.nth_iterate n)
      rw [hnth] at hreq hbad
      exact ⟨xs, hmakes, hask, hreq, hbad⟩

end Connector

/-! ### A sample -/

namespace Sample

/-- A configuration with a refresh token. -/
def refreshing : Config :=
  { Config.standard with
    appKey := "key", appSecret := some "secret", refreshToken := some "refresh" }

/-- The answer that an exchange wants. -/
def exchangeBody : List UInt8 := Utf8.ofString (tokenAnswer "sl.new").toText

/-- An exchange that is accepted, and then nothing but refusals. -/
def refused : Session :=
  .start ⟨[.response 200 [] exchangeBody], some (.response 401 [] []), []⟩

/-- A configuration without one. -/
def plain : Config := { Config.standard with appKey := "key" }

/-- A source that fails in between, and later yields a token that cannot be sent. -/
def changing : TokenSource :=
  ⟨.ok "sl.one", [.error (.authentication (.tokenSource "down")), .ok "sl.two", .ok "sl\n"]⟩

/-- Four turns, of which the third goes through all members. -/
def turns : List Turn :=
  [.perform (.list .user none .start), .perform (.list .group none .start),
    .perform (.list .role none .start), .perform (.list .user none .start)]

end Sample

open Sample in
theorem Connector.credentials_of_sessions_samples :
    (∃ k s₁ exchange later, connect refreshing (some changing) client.now refused = (.ok k, s₁) ∧
      (k.play turns s₁).2.transport.sent = exchange :: later ∧ (k.play turns s₁).2.asked = 0 ∧
      ∀ r ∈ later, r.authorization? = some "Bearer sl.new" ∧
        r.header? "authorization" = some "Bearer sl.new") ∧
    ∃ k s₁ n later, connect plain (some changing) client.now (.start .empty) = (.ok k, s₁) ∧
      (k.play turns s₁).2.transport.sent = later ∧ (k.play turns s₁).2.asked = n ∧
      later.map Http.Request.authorization? =
        (sendables changing.nth n).map (fun t => some (bearer t)) := by
  constructor
  · have hok : (connect refreshing (some changing) client.now refused).1.isOk = true := by
      decide +kernel
    rcases hc : connect refreshing (some changing) client.now refused with ⟨e | k, s₁⟩
    · rw [hc] at hok
      cases hok
    obtain ⟨-, hasked, headers, body, arrival, cr, exchange, later, hn, hcr, hsent, -, hlater⟩ :=
      (credentials_of_sessions hc turns).1 rfl
    have hbody : RefreshGrant.credentialOf client.now exchangeBody =
        .ok ⟨"sl.new", some ⟨1780014400, 0⟩⟩ := by decide +kernel
    obtain ⟨rfl, rfl⟩ : exchangeBody = body ∧ none = arrival := by
      cases hn
      exact ⟨rfl, rfl⟩
    rw [Arrival.instant_none, hbody] at hcr
    cases hcr
    refine ⟨k, s₁, exchange, later, rfl, hsent, hasked, fun r hr => ?_⟩
    obtain ⟨-, hauth, hseen⟩ := hlater r hr
    refine ⟨hauth, hseen.trans (congrArg some ?_)⟩
    exact (credentials_of_sessions hc turns).2.2.2.2 _ (by decide)
  · have hok : (connect plain (some changing) client.now (.start .empty)).1.isOk = true := by
      decide +kernel
    rcases hc : connect plain (some changing) client.now (.start .empty) with ⟨e | k, s₁⟩
    · rw [hc] at hok
      cases hok
    obtain ⟨src, n, later, hsrc, hasked, hsent, hauth, -⟩ :=
      (credentials_of_sessions hc turns).2.1 rfl
    cases hsrc
    refine ⟨k, s₁, n, later, rfl, hsent, ?_, hauth⟩
    rw [hasked]
    exact Nat.zero_add n

end TeamSync
