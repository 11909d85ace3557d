import TeamSync.Proofs.Credentials
import TeamSync.Proofs.TwoRuns

/-!
Secrets that do not show. What a session comes to and what it logs is the same whatever the secrets
of its configuration are, and whatever the tokens of its source are; they only go where requests are
sent.
-/

namespace TeamSync

namespace Http.Request

/-- A request without its body, if it goes to some URL. -/
def hideBody (target : String) (r : Request) : Request :=
  if r.url = target then { r with body := none } else r

/-- A request without the value of its authorization. -/
def hideAuthorization (r : Request) : Request :=
  { r with headers := r.headers.map fun h => if h.1 = "authorization" then (h.1, "") else h }

end Http.Request

/-- Both yield a token that can be sent, or both fail with the same error. -/
def Likewise (r r' : Except Error String) : Prop :=
  (∃ t t', r = .ok t ∧ r' = .ok t' ∧ Http.isHeaderValue (bearer t) ∧
    Http.isHeaderValue (bearer t')) ∨ ∃ e, r = .error e ∧ r' = .error e

namespace Connector

/-- A whole session: what comes of making a connector, the replies to the turns with it, and what is
left. -/
def course (c : Config) (source : Option TokenSource) (now : Instant) (ts : List Turn)
    (s : Session) : Except Error Connector × List (Except Error Reply) × Session :=
  match connect c source now s with
  | (.ok k, s) => (.ok k, k.play ts s)
  | (.error e, s) => (.error e, [], s)

variable {c : Config} {source : Option TokenSource} {now : Instant} {ts : List Turn}
  {s s₁ : Session}

lemma course_of_ok {k : Connector} (h : connect c source now s = (.ok k, s₁)) :
    course c source now ts s = (.ok k, k.play ts s₁) := by
  simp only [course, h]

lemma course_of_error {e : Error} (h : connect c source now s = (.error e, s₁)) :
    course c source now ts s = (.error e, [], s₁) := by
  simp only [course, h]

/-- Two sessions that came to the same behind a mask. -/
structure SameCourse (mask : Http.Request → Http.Request)
    (x x' : Except Error Connector × List (Except Error Reply) × Session) : Prop where
  connected : x.1 = x'.1
  replies : x.2.1 = x'.2.1
  log : x.2.2.log = x'.2.2.log
  sent : x.2.2.transport.sent.map mask = x'.2.2.transport.sent.map mask

/-- Connectors that are the same, in sessions that are paired, come to the same. -/
lemma sameCourse_of_play {mask : Http.Request → Http.Request} {k : Connector} {u v : Session}
    (h : (k.play ts u).1 = (k.play ts v).1 ∧
      (k.play ts u).2.Paired k.directory.client mask (k.play ts v).2) :
    SameCourse mask (.ok k, k.play ts u) (.ok k, k.play ts v) :=
  ⟨rfl, h.1, h.2.log, h.2.sent⟩

/-! ### Configured secrets -/

/-- A configuration with a secret and a refresh token. -/
def withSecrets (c : Config) (secret token : String) : Config :=
  { c with appSecret := some secret, refreshToken := some token }

lemma validate_withSecrets {secret token : String} (hs : secret ≠ "") (ht : token ≠ "") :
    (withSecrets c secret token).validate =
      if Text.blank c.appKey then .error (.configuration .missingAppKey) else .ok () := by
  simp [Config.validate, withSecrets, Config.usesRefreshToken, Config.isPresent, hs, ht]

/-- The exchanges of configurations with other secrets differ in their bodies. -/
lemma hideBody_exchange (g g' : RefreshGrant) (h : g.tokenUrl = g'.tokenUrl) :
    g.request.hideBody g.tokenUrl = g'.request.hideBody g.tokenUrl := by
  have hg : g.request.url = g.tokenUrl := rfl
  have hg' : g'.request.url = g.tokenUrl := h.symm
  rw [Http.Request.hideBody, Http.Request.hideBody, if_pos hg, if_pos hg']
  simp only [RefreshGrant.request, h]

/-- A token that is held is the same in both sessions. -/
lemma paired_held {mask : Http.Request → Http.Request} {k : Connector} {cr : Credential}
    (hk : k.directory.client.tokens = .held cr) {r r' : Http.Request} (hr : mask r = mask r')
    (es : List Event) : (s.spend r es).Paired k.directory.client mask (s.spend r' es) where
  queue := rfl
  standing := rfl
  log := rfl
  sent := by simp [hr]
  tokens i := by
    rw [Client.tokenAt_held hk, Client.tokenAt_held hk]
    rcases ht : sendable (.ok cr.token) with e | t
    · exact .failed ht ht
    · exact .sent ht ht fun op body => rfl

/-- Secrets only show in the body of the exchange. -/
lemma sameCourse_of_secrets (c : Config) (source : Option TokenSource) (now : Instant)
    (ts : List Turn) (s : Session) {a a' r r' : String} (ha : a ≠ "") (ha' : a' ≠ "") (hr : r ≠ "")
    (hr' : r' ≠ "") :
    SameCourse (Http.Request.hideBody (endpoints c).tokenUrl)
      (course (withSecrets c a r) source now ts s)
      (course (withSecrets c a' r') source now ts s) := by
  by_cases hb : Text.blank c.appKey = true
  · have hv : (withSecrets c a r).validate = .error (.configuration .missingAppKey) := by
      rw [validate_withSecrets ha hr, if_pos hb]
    have hv' : (withSecrets c a' r').validate = .error (.configuration .missingAppKey) := by
      rw [validate_withSecrets ha' hr', if_pos hb]
    rw [course_of_error (connect_of_invalid hv), course_of_error (connect_of_invalid hv')]
    exact ⟨rfl, rfl, rfl, rfl⟩
  have hv : (withSecrets c a r).validate = .ok () := by
    rw [validate_withSecrets ha hr, if_neg hb]
  have hv' : (withSecrets c a' r').validate = .ok () := by
    rw [validate_withSecrets ha' hr', if_neg hb]
  have hu : (withSecrets c a r).usesRefreshToken = true := by
    simp [withSecrets, Config.usesRefreshToken, Config.isPresent, hr]
  have hu' : (withSecrets c a' r').usesRefreshToken = true := by
    simp [withSecrets, Config.usesRefreshToken, Config.isPresent, hr']
  -- the grants have the same URL, so what comes of the exchanges is the same
  have hc := connect_of_refresh source now s hv hu
    (g := ⟨(endpoints c).tokenUrl, c.appKey, a, r⟩) rfl
  have hc' := connect_of_refresh source now s hv' hu'
    (g := ⟨(endpoints c).tokenUrl, c.appKey, a', r'⟩) rfl
  have hmask := hideBody_exchange ⟨(endpoints c).tokenUrl, c.appKey, a, r⟩
    ⟨(endpoints c).tokenUrl, c.appKey, a', r'⟩ rfl
  rcases hrec : (RefreshGrant.receive (endpoints c).tokenUrl now s.transport.next?).1
    with e | cr <;>
    simp only [hrec, Except.map] at hc hc'
  · rw [course_of_error hc, course_of_error hc']
    refine ⟨rfl, rfl, rfl, ?_⟩
    simp only [Session.spend_sent, List.map_append, List.map_cons, List.map_nil, hmask]
  · have hheld : (ofClient ⟨endpoints c, .held cr, now⟩ c).directory.client.tokens = .held cr :=
      rfl
    rw [course_of_ok hc, course_of_ok hc']
    exact sameCourse_of_play (agrees_play_held hheld (paired_held hheld hmask _) rfl ts)

/-! ### Tokens of a source -/

/-- Requests that differ in their tokens differ in the value of their authorization. -/
lemma hideAuthorization_requestOf (cl : Client) (op : Operation) (t t' : String)
    (body : Json.Value) :
    (cl.requestOf op t body).hideAuthorization = (cl.requestOf op t' body).hideAuthorization := by
  simp [Client.requestOf, Http.Request.hideAuthorization]

/-- Sources that yield tokens likewise make no difference but that. -/
lemma paired_external {k : Connector} (hk : k.directory.client.tokens = .external)
    {src src' : TokenSource} (h : ∀ i, Likewise (src.nth i) (src'.nth i)) (s : Session)
    (es : List Event) :
    ({ s with source := some src }.noting es).Paired k.directory.client
      Http.Request.hideAuthorization ({ s with source := some src' }.noting es) where
  queue := rfl
  standing := rfl
  log := rfl
  sent := rfl
  tokens i := by
    have hs : ({ s with source := some src }.noting es).source = some src := rfl
    have hs' : ({ s with source := some src' }.noting es).source = some src' := rfl
    rw [Client.tokenAt_external hk hs, Client.tokenAt_external hk hs']
    rcases h i with ⟨t, t', ht, ht', hl, hl'⟩ | ⟨e, he, he'⟩
    · rw [ht, ht']
      exact .sent (sendable_of_legal hl) (sendable_of_legal hl')
        fun op body => hideAuthorization_requestOf _ op t t' body
    · rw [he, he']
      exact .failed rfl rfl

/-- Tokens only show in the authorization of requests. -/
lemma sameCourse_of_likewise (hr : c.usesRefreshToken = false) {src src' : TokenSource}
    (h : ∀ i, Likewise (src.nth i) (src'.nth i))
    (hends : ∀ r ∈ (course c (some src) now ts s).2.1, r ≠ .error endlessMembers) :
    SameCourse Http.Request.hideAuthorization (course c (some src) now ts s)
      (course c (some src') now ts s) := by
  rcases hv : c.validate with e | v
  · rw [course_of_error (connect_of_invalid hv), course_of_error (connect_of_invalid hv)]
    exact ⟨rfl, rfl, rfl, rfl⟩
  · have hext : (ofClient ⟨endpoints c, .external, now⟩ c).directory.client.tokens = .external :=
      rfl
    rw [course_of_ok (connect_of_source hv hr src)] at hends ⊢
    rw [course_of_ok (connect_of_source hv hr src')]
    exact sameCourse_of_play (agrees_play (paired_external hext h s _) ts hends)

/-- **Secrets stay secret.** Two sessions whose configurations differ in the secret and the refresh
token, none of them empty, come to the same: the same connector or error, the same replies and
errors, the same log, and requests that differ in the body of the exchange alone. So do two sessions
whose sources always yield a token that can be sent together, or fail together with one error,
except that their requests differ in the value of the authorization; here no turn may be one that
never ends. -/
theorem secrets_do_not_show (c : Config) (source : Option TokenSource) (now : Instant)
    (ts : List Turn) (s : Session) :
    (∀ a a' r r' : String, a ≠ "" → a' ≠ "" → r ≠ "" → r' ≠ "" →
      SameCourse (Http.Request.hideBody (endpoints c).tokenUrl)
        (course { c with appSecret := some a, refreshToken := some r } source now ts s)
        (course { c with appSecret := some a', refreshToken := some r' } source now ts s)) ∧
    (c.usesRefreshToken = false → ∀ src src' : TokenSource,
      (∀ i, Likewise (src.nth i) (src'.nth i)) →
      (∀ r ∈ (course c (some src) now ts s).2.1, r ≠ .error endlessMembers) →
      SameCourse Http.Request.hideAuthorization (course c (some src) now ts s)
        (course c (some src') now ts s)) :=
  ⟨fun _ _ _ _ ha ha' hr hr' => sameCourse_of_secrets c source now ts s ha ha' hr hr',
    fun hr _ _ h hends => sameCourse_of_likewise hr h hends⟩

end Connector

/-! ### A sample -/

namespace Sample

/-- A source that yields some token, fails, and then yields another for ever. -/
def recovering (t t' : String) : TokenSource :=
  ⟨.ok t, [.error (.authentication (.tokenSource "down")), .ok t']⟩

lemma nth_recovering (t t' : String) (i : ℕ) : (recovering t t').nth (i + 2) = .ok t' := by
  have hlast : TokenSource.advance ⟨.ok t', []⟩ = ⟨.ok t', []⟩ := rfl
  have h : (recovering t t').nth (i + 2) = TokenSource.nth ⟨.ok t', []⟩ i := rfl
  rw [h, TokenSource.nth, Function.iterate_fixed hlast]

lemma likewise_recovering (i : ℕ) :
    Likewise ((recovering "sl.one" "sl.two").nth i) ((recovering "sl.three" "sl.four").nth i) := by
  match i with
  | 0 => exact .inl ⟨"sl.one", "sl.three", rfl, rfl, by decide +kernel, by decide +kernel⟩
  | 1 => exact .inr ⟨_, rfl, rfl⟩
  | i + 2 =>
    rw [nth_recovering, nth_recovering]
    exact .inl ⟨"sl.two", "sl.four", rfl, rfl, by decide +kernel, by decide +kernel⟩

/-- Whether a reply is not that of a listing that never ends. -/
def comes : Except Error Reply → Bool
  | .ok _ => true
  | .error e => e ≠ endlessMembers

lemma comes_recovering :
    ((Connector.course plain (some (recovering "sl.one" "sl.two")) client.now turns
      refused).2.1.all comes) = true := by
  decide +kernel

end Sample

open Sample in
theorem Connector.secrets_do_not_show_samples :
    Connector.SameCourse (Http.Request.hideBody "https://api.dropboxapi.com/oauth2/token")
        (course { plain with appSecret := some "secret", refreshToken := some "refresh" } none
          client.now turns refused)
        (course { plain with appSecret := some "other", refreshToken := some "one more" } none
          client.now turns refused) ∧
      Connector.SameCourse Http.Request.hideAuthorization
        (course plain (some (recovering "sl.one" "sl.two")) client.now turns refused)
        (course plain (some (recovering "sl.three" "sl.four")) client.now turns refused) := by
  have hurl : (endpoints plain).tokenUrl = "https://api.dropboxapi.com/oauth2/token" := by
    decide +kernel
  obtain ⟨hsecrets, htokens⟩ := secrets_do_not_show plain none client.now turns refused
  rw [hurl] at hsecrets
  refine ⟨hsecrets _ _ _ _ (by decide) (by decide) (by decide) (by decide),
    htokens rfl _ _ likewise_recovering fun r hr => ?_⟩
  have hcomes := List.all_eq_true.mp comes_recovering r hr
  rintro rfl
  simp [comes] at hcomes

end TeamSync
