import TeamSync.Proofs.Credentials
import TeamSync.Proofs.Json.Objects
import TeamSync.Proofs.QuotaHeaders

/-!
Whether a connector is made, and from what. The configuration is looked at first; then a refresh
token is exchanged, or else the source of tokens is taken that is given.
-/

namespace TeamSync

open Json

/-! ### Token answers -/

namespace TokenAnswer

variable {ms : Written} {body : List UInt8} {a b : TokenAnswer} {depth : ℕ}

/-- What the members of an object say as the answer to an exchange. -/
structure Shows (ms : Written) (a : TokenAnswer) : Prop where
  keys : ∀ m ∈ ms, ∃ key, m.1.read = .ok key
  token : ms.Says "access_token" a.token
  lifetime : ∀ n, ms.Has "expires_in" n → n = .null ∧ a.expiresIn = none ∨
    ∃ l i h, n = .number l ∧ l.read = .ok (.int i h) ∧ i < 0x8000000000000000 ∧
      a.expiresIn = some i
  noLifetime : "expires_in" ∉ ms.keys → a.expiresIn = none

lemma nodup_record : (record.fields.map (·.name)).Nodup := by
  simp [record, Field.required, Field.defaulted]

lemma slot_token : record.Slot "access_token" Decoder.string TokenAnswer.token :=
  Record.slot_of_mem nodup_record List.mem_cons_self (fun _ _ => rfl)
    (by simp [record, Field.required, Field.defaulted, Field.leaves_make])

lemma slot_lifetime : record.Slot "expires_in" Decoder.int64.nullable TokenAnswer.expiresIn :=
  Record.slot_of_mem nodup_record (List.mem_cons_of_mem _ List.mem_cons_self) (fun _ _ => rfl)
    (by simp [record, Field.required, Field.defaulted, Field.leaves_make])

lemma lifetime_eq_ok_iff (depth : ℕ) {n : Node} {x : Option Int} :
    Decoder.int64.nullable depth n = .ok x ↔ n = .null ∧ x = none ∨
      ∃ l i h, n = .number l ∧ l.read = .ok (.int i h) ∧ i < 0x8000000000000000 ∧ x = some i := by
  rw [Decoder.nullable_eq_ok_iff]
  refine or_congr_right ?_
  constructor
  · rintro ⟨-, i, hi, rfl⟩
    obtain ⟨l, h, rfl, hl, hlt⟩ := Decoder.int64_eq_ok_iff.mp hi
    exact ⟨l, i, h, rfl, hl, hlt, rfl⟩
  · rintro ⟨l, i, h, rfl, hl, hlt, rfl⟩
    exact ⟨nofun, i, Decoder.int64_eq_ok_iff.mpr ⟨l, h, rfl, hl, hlt⟩, rfl⟩

/-- The members say one thing. -/
lemma Shows.unique (h : Shows ms a) (h' : Shows ms b) (hd : ms.keys.Nodup) : a = b := by
  have honce (key : String) : ms.keys.count key ≤ 1 := List.nodup_iff_count_le_one.mp hd key
  have htoken : a.token = b.token := by
    obtain ⟨s, hs, hread⟩ := h.token
    obtain ⟨s', hs', hread'⟩ := h'.token
    cases hs.unique hs' (honce _)
    exact Except.ok.inj (hread.symm.trans hread')
  have hlife : a.expiresIn = b.expiresIn := by
    by_cases hm : "expires_in" ∈ ms.keys
    · obtain ⟨n, hn⟩ := Written.exists_has hm
      have hread := (lifetime_eq_ok_iff 0).mpr (h.lifetime n hn)
      have hread' := (lifetime_eq_ok_iff 0).mpr (h'.lifetime n hn)
      exact Except.ok.inj (hread.symm.trans hread')
    · rw [h.noLifetime hm, h'.noLifetime hm]
  cases a
  cases b
  simp_all

/-- **What is read as the answer to an exchange.** -/
theorem decode_eq_ok_iff (h : IsObject body ms) :
    record.decoder.decode body = .ok a ↔ Shows ms a := by
  refine Record.decode_eq_ok_iff h nodup_record (fun a ha => ?sound) (fun a ha => ?fits)
    fun a b ha hb => ha.unique hb h.distinct
  case sound =>
    obtain ⟨hfits, hthere⟩ := (Record.exists_decoder_iff nodup_record h.skim).mp ⟨a, ha⟩
    obtain ⟨hlife, hnoLife⟩ := Record.slot_of_decoder nodup_record h.skim slot_lifetime ha
    refine ⟨hfits.keys, ?_, fun n hn => (lifetime_eq_ok_iff 126).mp (hlife n hn), hnoLife⟩
    exact Record.says_of_mem_keys nodup_record h.skim slot_token ha
      (hthere _ List.mem_cons_self rfl)
  case fits =>
    obtain ⟨s, hs, hread⟩ := ha.token
    refine ⟨⟨ha.keys, h.distinct.filter _, fun f hf n hn => ?_⟩, fun f hf habsence => ?_⟩
    · rcases List.mem_pair.mp hf with rfl | rfl
      · obtain rfl := hn.unique hs (List.nodup_iff_count_le_one.mp h.distinct _)
        exact ⟨_, Field.read_make_eq_ok.mpr ⟨_, Decoder.string_eq_ok_iff.mpr ⟨s, rfl, hread⟩, rfl⟩⟩
      · exact ⟨_, Field.read_make_eq_ok.mpr
          ⟨_, (lifetime_eq_ok_iff 126).mpr (ha.lifetime n hn), rfl⟩⟩
    · rcases List.mem_pair.mp hf with rfl | rfl
      · exact hs.mem_keys
      · cases habsence

/-- An answer that can be taken: there is a token, and where its life has an end, the calendar goes
so far. -/
structure Accepted (now : Instant) (a : TokenAnswer) : Prop where
  token : a.token ≠ ""
  lifetime : ∀ i, a.expiresIn = some i → 0 ≤ i ∧ (now.later i.toNat).InCalendar

/-- The credential in an answer. -/
def credential (now : Instant) (a : TokenAnswer) : Credential :=
  ⟨a.token, a.expiresIn.map fun i => now.later i.toNat⟩

end TokenAnswer

namespace RefreshGrant

variable {now : Instant} {body : List UInt8} {cr : Credential} {i : Int} {t : Instant}

lemma expiry_eq_ok_iff (h : now.InCalendar) :
    expiry now i = .ok t ↔ 0 ≤ i ∧ (now.later i.toNat).InCalendar ∧ t = now.later i.toNat := by
  rw [expiry]
  by_cases hi : 0 ≤ i
  · obtain ⟨d, rfl⟩ := Int.eq_ofNat_of_zero_le hi
    rw [if_pos hi, Int.toNat_natCast]
    by_cases hin : (now.later d).InCalendar
    · have hadd : now.add? d = some (now.later d) := (Instant.add?_eq_some_iff h d).mpr ⟨rfl, hin⟩
      simp [hadd, hin, eq_comm]
    · have hadd : now.add? d = none := Option.eq_none_iff_forall_ne_some.mpr fun u hu => by
        obtain ⟨rfl, hu⟩ := (Instant.add?_eq_some_iff h d).mp hu
        exact hin hu
      simp [hadd, hin, invalidAnswer]
  · rw [if_neg hi]
    simp [invalidAnswer, hi]

lemma lifetime_eq_ok_iff (h : now.InCalendar) {a : TokenAnswer} {x : Option Instant} :
    lifetime now a = .ok x ↔
      (∀ i, a.expiresIn = some i → 0 ≤ i ∧ (now.later i.toNat).InCalendar) ∧
        x = a.expiresIn.map fun i => now.later i.toNat := by
  rw [lifetime]
  rcases a.expiresIn with _ | i
  · simp [eq_comm]
  · simp only [map_eq_ok_iff, expiry_eq_ok_iff h]
    simp [and_assoc]

/-- **What is taken for a credential.** -/
theorem credentialOf_eq_ok_iff (h : now.InCalendar) :
    credentialOf now body = .ok cr ↔ ∃ a, TokenAnswer.record.decoder.decode body = .ok a ∧
      a.Accepted now ∧ cr = a.credential now := by
  rcases hd : TokenAnswer.record.decoder.decode body with f | a
  · simp [credentialOf, hd, invalidAnswer, bind, Except.bind]
  by_cases ht : a.token = ""
  · have hno : ¬a.Accepted now := fun ha => ha.token ht
    simp [credentialOf, hd, ht, invalidAnswer, bind, Except.bind, hno]
  · rw [credentialOf_of_decode hd ht]
    simp only [map_eq_ok_iff, lifetime_eq_ok_iff h, Except.ok.injEq, exists_eq_left']
    constructor
    · rintro ⟨t, ⟨hlife, rfl⟩, rfl⟩
      exact ⟨⟨ht, hlife⟩, rfl⟩
    · rintro ⟨hok, rfl⟩
      exact ⟨_, ⟨hok.lifetime, rfl⟩, rfl⟩

lemma expiry_error {e : Error} (h : expiry now i = .error e) :
    ∃ m, e = .authentication (.invalidTokenResponse m) := by
  rw [expiry] at h
  split at h
  · cases h
  · exact ⟨_, (Except.error.inj h).symm⟩

lemma lifetime_error {a : TokenAnswer} {e : Error} (h : lifetime now a = .error e) :
    ∃ i, expiry now i = .error e := by
  rw [lifetime] at h
  rcases hx : a.expiresIn with _ | i
  · simp [hx] at h
  · refine ⟨i, ?_⟩
    rcases he : expiry now i with e' | t
    · simpa [hx, he, Except.map] using h
    · simp [hx, he, Except.map] at h

/-- An answer that is not taken is described as invalid. -/
lemma credentialOf_error {e : Error} (h : credentialOf now body = .error e) :
    ∃ m, e = .authentication (.invalidTokenResponse m) := by
  rcases hd : TokenAnswer.record.decoder.decode body with f | a
  · simp only [credentialOf, hd, invalidAnswer, bind, Except.bind, Except.error.injEq] at h
    exact ⟨_, h.symm⟩
  by_cases ht : a.token = ""
  · simp only [credentialOf, hd, ht, invalidAnswer, bind, Except.bind, if_true,
      Except.error.injEq] at h
    exact ⟨_, h.symm⟩
  · rw [credentialOf_of_decode hd ht] at h
    rcases hl : lifetime now a with e' | x
    · obtain rfl : e' = e := by simpa [hl, Except.map] using h
      obtain ⟨i, hi⟩ := lifetime_error hl
      exact expiry_error hi
    · simp [hl, Except.map] at h

end RefreshGrant

/-! ### Configurations -/

namespace Config

variable {c : Config}

/-- A secret is given that is not empty. -/
def Given (secret : Option String) : Prop := ∃ t, secret = some t ∧ t ≠ ""

/-- The key of a configuration holds nothing but blanks. -/
def KeyBlank (c : Config) : Prop := ∀ ch ∈ c.appKey.toList, Text.isBlank ch = true

/-- A secret that is not given is empty if it is there. -/
lemma eq_empty_of_not_given {secret : Option String} (h : ¬Given secret) {t : String}
    (ht : secret = some t) : t = "" := by
  by_contra hne
  exact h ⟨t, ht, hne⟩

lemma isPresent_iff {secret : Option String} : isPresent secret = true ↔ Given secret := by
  rcases secret with _ | t <;> simp [isPresent, Given]

lemma blank_iff : Text.blank c.appKey = true ↔ c.KeyBlank := List.all_eq_true

/-- **What is wrong with a configuration.** -/
lemma validate_cases (c : Config) :
    c.KeyBlank ∧ c.validate = .error (.configuration .missingAppKey) ∨
    ¬c.KeyBlank ∧ Given c.refreshToken ∧ ¬Given c.appSecret ∧
      c.validate = .error (.configuration .missingAppSecret) ∨
    ¬c.KeyBlank ∧ (Given c.refreshToken → Given c.appSecret) ∧ c.validate = .ok () := by
  simp only [← blank_iff, ← isPresent_iff]
  rw [validate, usesRefreshToken]
  rcases Text.blank c.appKey with _ | _ <;> rcases isPresent c.refreshToken with _ | _ <;>
    rcases isPresent c.appSecret with _ | _ <;> simp

end Config

namespace Connector

variable {c : Config} {g : RefreshGrant} {now : Instant} {a : Option Answer}

/-- What becomes of a connector whose exchange is sent, by what comes of the request. -/
structure Exchanged (c : Config) (g : RefreshGrant) (now : Instant) (a : Option Answer)
    (r : Except Error Connector) : Prop where
  made : ∀ k, r = .ok k ↔ ∃ headers body arrival t,
    a = some (.response 200 headers body arrival) ∧
    TokenAnswer.record.decoder.decode body = .ok t ∧ t.Accepted (arrival.instant now) ∧
    k = ofClient ⟨endpoints c, .held (t.credential (arrival.instant now)), now⟩ c
  network : ∀ cause, r = .error (.network cause) ↔ a = some (.failure cause) ∨
    a = none ∧ cause = .connectionFailed ("no mock response queued for " ++ g.tokenUrl)
  refused : ∀ status, r = .error (.authentication (.exchangeRefused status)) ↔
    status ≠ 200 ∧ ∃ headers body arrival, a = some (.response status headers body arrival)
  invalid : (∃ m, r = .error (.authentication (.invalidTokenResponse m))) ↔
    ∃ headers body arrival, a = some (.response 200 headers body arrival) ∧
      ¬∃ t, TokenAnswer.record.decoder.decode body = .ok t ∧ t.Accepted (arrival.instant now)
  only : ∀ e, r = .error e → (∃ cause, e = .network cause) ∨
    (∃ status, e = .authentication (.exchangeRefused status)) ∨
    ∃ m, e = .authentication (.invalidTokenResponse m)

variable {headers : List (String × String)} {body : List UInt8} {arrival : Arrival}

lemma exchanged_of_accepted {t : TokenAnswer}
    (hd : TokenAnswer.record.decoder.decode body = .ok t) (ht : t.Accepted (arrival.instant now)) :
    Exchanged c g now (some (.response 200 headers body arrival))
      (.ok (ofClient ⟨endpoints c, .held (t.credential (arrival.instant now)), now⟩ c)) := by
  constructor
  case made =>
    intro k
    constructor
    · intro hk
      exact ⟨headers, body, arrival, t, rfl, hd, ht, (Except.ok.inj hk).symm⟩
    · rintro ⟨headers', body', arrival', t', ha, hd', -, rfl⟩
      cases ha
      rw [hd] at hd'
      cases hd'
      rfl
  case refused => simpa using fun _ => Ne.symm
  case invalid => simpa [hd] using ht
  all_goals simp

lemma exchanged_of_not_accepted
    (hno : ∀ t, TokenAnswer.record.decoder.decode body = .ok t →
      ¬t.Accepted (arrival.instant now)) (m : String) :
    Exchanged c g now (some (.response 200 headers body arrival))
      (.error (.authentication (.invalidTokenResponse m))) := by
  constructor
  case made =>
    intro k
    constructor
    · rintro ⟨⟩
    · rintro ⟨headers', body', arrival', t, ha, hd, ht, -⟩
      cases ha
      exact absurd ht (hno t hd)
  case refused => simpa using fun _ => Ne.symm
  case invalid => simpa using hno
  all_goals simp

/-- **An exchange comes to what its answer says.** -/
theorem exchanged_receive (h : now.InCalendar) :
    Exchanged c g now a ((RefreshGrant.receive g.tokenUrl now a).1.map
      fun cr => ofClient ⟨endpoints c, .held cr, now⟩ c) := by
  rcases a with _ | ⟨status, headers, body, arrival⟩ | cause
  · constructor <;> simp [RefreshGrant.receive, Except.map, eq_comm]
  · by_cases hs : status = 200
    · subst hs
      have hin := arrival.inCalendar_instant h
      rcases hc : RefreshGrant.credentialOf (arrival.instant now) body with e | cr
      · obtain ⟨m, rfl⟩ := RefreshGrant.credentialOf_error hc
        have hno (t : TokenAnswer) (hd : TokenAnswer.record.decoder.decode body = .ok t) :
            ¬t.Accepted (arrival.instant now) := by
          intro ha
          rw [(RefreshGrant.credentialOf_eq_ok_iff hin).mpr ⟨t, hd, ha, rfl⟩] at hc
          cases hc
        simp only [RefreshGrant.receive, hc]
        exact exchanged_of_not_accepted hno m
      · obtain ⟨t, hd, ht, rfl⟩ := (RefreshGrant.credentialOf_eq_ok_iff hin).mp hc
        simp only [RefreshGrant.receive, hc]
        exact exchanged_of_accepted hd ht
    · constructor <;> simp [RefreshGrant.receive, Except.map, hs]
  · constructor <;> simp [RefreshGrant.receive, Except.map, eq_comm]

/-- Where there was an exchange, no error is about the configuration. -/
lemma Exchanged.ne_configuration {r : Except Error Connector} (h : Exchanged c g now a r)
    (e : ConfigurationError) : r ≠ .error (.configuration e) := by
  intro he
  rcases h.only _ he with ⟨_, ⟨⟩⟩ | ⟨_, ⟨⟩⟩ | ⟨_, ⟨⟩⟩

/-- Where there was an exchange, the refresh token is not empty. -/
lemma Exchanged.ne_emptyRefreshToken {r : Except Error Connector} (h : Exchanged c g now a r) :
    r ≠ .error (.authentication .emptyRefreshToken) := by
  intro he
  rcases h.only _ he with ⟨_, ⟨⟩⟩ | ⟨_, ⟨⟩⟩ | ⟨_, ⟨⟩⟩

/-- With a refresh token a valid configuration comes to one exchange. -/
lemma connect_exchanged (source : Option TokenSource) (s : Session) (h : now.InCalendar)
    (hv : c.validate = .ok ()) (hg : Config.Given c.refreshToken) :
    ∃ secret token, c.appSecret = some secret ∧ c.refreshToken = some token ∧
      (connect c source now s).2.transport = s.transport.after
        [RefreshGrant.request ⟨(endpoints c).tokenUrl, c.appKey, secret, token⟩] ∧
      Exchanged c ⟨(endpoints c).tokenUrl, c.appKey, secret, token⟩ now s.transport.next?
        (connect c source now s).1 := by
  have huses : c.usesRefreshToken = true := Config.isPresent_iff.mpr hg
  obtain ⟨secret, token, hsecret, htoken, hgrant⟩ := grantOf_of_valid hv huses (endpoints c)
  refine ⟨secret, token, hsecret, htoken, ?_, ?_⟩
  · rw [connect_of_refresh source now s hv huses hgrant]
    exact Session.spend_transport ..
  · rw [connect_of_refresh source now s hv huses hgrant]
    exact exchanged_receive h

/-- **Whether a connector is made.** Without a key it is not, and nor is it with a refresh token
that is given without a secret; with neither a refresh token nor a source it is not either. Nothing
is sent then, and nothing else is wrong with a configuration. With a refresh token one request is
sent, which is the exchange, and the connector is made just if the answer has the status 200 and a
token that is not empty, and where the life of the token has an end, that is a number of seconds of
the calendar from the arrival of the answer; the token is then held as it is. Without one nothing
is sent, and the connector is made of the source that is given. -/
theorem connect_outcome (c : Config) (source : Option TokenSource) (s : Session)
    (h : now.InCalendar) :
    let r := connect c source now s
    (r.1 = .error (.configuration .missingAppKey) ↔ c.KeyBlank) ∧
    (r.1 = .error (.configuration .missingAppSecret) ↔
      ¬c.KeyBlank ∧ Config.Given c.refreshToken ∧ ¬Config.Given c.appSecret) ∧
    (r.1 = .error (.configuration .missingCredential) ↔
      ¬c.KeyBlank ∧ ¬Config.Given c.refreshToken ∧ source = none) ∧
    (∀ secret token, ¬c.KeyBlank → c.appSecret = some secret → secret ≠ "" →
      c.refreshToken = some token → token ≠ "" →
      let g : RefreshGrant := ⟨(endpoints c).tokenUrl, c.appKey, secret, token⟩
      r.2.transport = s.transport.after [g.request] ∧ Exchanged c g now s.transport.next? r.1) ∧
    (¬c.KeyBlank → ¬Config.Given c.refreshToken → r.2.transport = s.transport ∧
      ∀ src, source = some src → r.1 = .ok (ofClient ⟨endpoints c, .external, now⟩ c)) ∧
    r.1 ≠ .error (.authentication .emptyRefreshToken) ∧
    (∀ e, r.1 = .error (.configuration e) → r.2 = s) ∧
    ∀ body ms a, IsObject body ms →
      (TokenAnswer.record.decoder.decode body = .ok a ↔ TokenAnswer.Shows ms a) := by
  intro r
  have hdecode (body : List UInt8) (ms : Written) (a : TokenAnswer) (hbody : IsObject body ms) :
      TokenAnswer.record.decoder.decode body = .ok a ↔ TokenAnswer.Shows ms a :=
    TokenAnswer.decode_eq_ok_iff hbody
  rcases c.validate_cases with ⟨hb, hv⟩ | ⟨hb, hg, hs, hv⟩ | ⟨hb, hgs, hv⟩
  · have hr : r = (.error (.configuration .missingAppKey), s) := connect_of_invalid hv
    rw [hr]
    refine ⟨?_, ?_, ?_, ?_, ?_, ?_, ?_, hdecode⟩ <;> simp [hb]
  · have hr : r = (.error (.configuration .missingAppSecret), s) := connect_of_invalid hv
    rw [hr]
    refine ⟨?_, ?_, ?_, ?sent, ?_, ?_, ?_, hdecode⟩
    case sent =>
      exact fun _ _ _ hsecret hne => absurd (Config.eq_empty_of_not_given hs hsecret) hne
    all_goals simp [hb, hg, hs]
  by_cases hg : Config.Given c.refreshToken
  · obtain ⟨secret, token, hsecret, htoken, hsent, hexchanged⟩ :=
      connect_exchanged source s h hv hg
    have hno := hexchanged.ne_configuration
    refine ⟨?_, ?_, ?_, ?sent, ?_, hexchanged.ne_emptyRefreshToken,
      fun e he => absurd he (hno e), hdecode⟩
    case sent =>
      intro secret' token' _ hsecret' _ htoken' _
      obtain rfl : secret = secret' := Option.some.inj (hsecret.symm.trans hsecret')
      obtain rfl : token = token' := Option.some.inj (htoken.symm.trans htoken')
      exact ⟨hsent, hexchanged⟩
    all_goals simp [r, hno, hb, hg, hgs]
  have huses : c.usesRefreshToken = false := by
    rw [← Bool.not_eq_true]
    exact fun hu => hg (Config.isPresent_iff.mp hu)
  rcases source with _ | src
  · have hr : r = (.error (.configuration .missingCredential), s) := connect_of_none hv huses
    rw [hr]
    refine ⟨?_, ?_, ?_, ?sent, ?_, ?_, ?_, hdecode⟩
    case sent =>
      exact fun _ _ _ _ _ htoken hne => absurd (Config.eq_empty_of_not_given hg htoken) hne
    all_goals simp [hb, hg]
  · have hr : r = _ := connect_of_source hv huses src
    rw [hr]
    refine ⟨?_, ?_, ?_, ?sent, ?_, ?_, ?_, hdecode⟩
    case sent =>
      exact fun _ _ _ _ _ htoken hne => absurd (Config.eq_empty_of_not_given hg htoken) hne
    all_goals simp [hb, hg]

open Sample in
/-- An exchange that is accepted, for a token that lives for some hours. -/
theorem connect_outcome_accepted :
    client.now.InCalendar ∧
      ∃ k, (connect refreshing none client.now refused).1 = .ok k ∧
        k.directory.client.tokens = .held ⟨"sl.new", some ⟨1780014400, 0⟩⟩ ∧
        (connect refreshing none client.now refused).2.transport = refused.transport.after
          [RefreshGrant.request ⟨(endpoints refreshing).tokenUrl, "key", "secret", "refresh"⟩] := by
  have hin : client.now.InCalendar := by decide
  have hkey : ¬refreshing.KeyBlank := by
    rw [← Config.blank_iff]
    decide
  have hdecode : TokenAnswer.record.decoder.decode exchangeBody = .ok ⟨"sl.new", some 14400⟩ := by
    decide +kernel
  obtain ⟨-, -, -, hexchange, -⟩ := connect_outcome refreshing none refused hin
  obtain ⟨hsent, hexchanged⟩ := hexchange "secret" "refresh" hkey rfl (by decide) rfl (by decide)
  refine ⟨hin, _, (hexchanged.made _).mpr
    ⟨[], exchangeBody, none, _, rfl, hdecode, ⟨by decide, ?_⟩, rfl⟩, rfl, hsent⟩
  rintro i ⟨⟩
  exact ⟨by decide, by decide⟩

open Sample in
/-- The life of a token begins when the answer arrives. -/
example :
    (RefreshGrant.receive "https://h/oauth2/token" client.now
      (some (.response 200 [] exchangeBody (some ⟨⟨1780000500, 0⟩, by decide⟩)))).1 =
        .ok ⟨"sl.new", some ⟨1780014900, 0⟩⟩ := by decide +kernel

end Connector

end TeamSync
