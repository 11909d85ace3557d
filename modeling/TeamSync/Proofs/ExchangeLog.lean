import TeamSync.Proofs.Course
import TeamSync.Proofs.Utf8
import TeamSync.Sample

/-!
What an exchange tells the log about the token it gets. If the answer is accepted, that is the
beginning of the token. If it is rejected, that is the beginning of the body, whatever stands in it.
-/

namespace TeamSync

/-! ### Texts in the log -/

namespace Utf8

/-- Each character takes at least one byte. -/
lemma length_le_ofString (s : String) : s.toList.length ≤ (ofString s).length := by
  have hlen (cs : List Char) : cs.length ≤ (encode cs).length := by
    induction cs with
    | nil => rfl
    | cons c cs ih =>
      have hc : 0 < (String.utf8EncodeChar c).length := by
        rw [String.length_utf8EncodeChar]
        exact c.utf8Size_pos
      rw [encode, List.flatMap_cons, List.length_append, List.length_cons]
      rw [encode] at ih
      omega
  exact hlen s.toList

end Utf8

namespace Log

/-- Long tokens that begin alike look alike in the log. -/
lemma redact_congr {t t' : String} (ht : 12 < t.toList.length) (ht' : 12 < t'.toList.length)
    (hp : t.toList.take 8 = t'.toList.take 8) : redact t = redact t' := by
  have hlong {u : String} (hu : 12 < u.toList.length) :
      redact u = String.ofList (u.toList.take 8) ++ "..." ++ redactedMark := by
    have hbytes := Utf8.length_le_ofString u
    rw [redact, if_pos ⟨by omega, by omega⟩]
  rw [hlong ht, hlong ht', hp]

/-- A text that is not too long is logged as it is. -/
lemma excerpt_ofString {x : String} (h : (Utf8.ofString x).length ≤ bodyLimit) :
    excerpt (Utf8.ofString x) = x := by
  rw [excerpt, if_pos h, Utf8.toStringLossy_ofString]

end Log

/-! ### The events of an exchange -/

/-- Two answers say the same but for their tokens, which are long and begin alike. -/
structure TokenAnswer.Akin (a a' : TokenAnswer) : Prop where
  expiresIn : a.expiresIn = a'.expiresIn
  long : 12 < a.token.toList.length
  long' : 12 < a'.token.toList.length
  begins : a.token.toList.take 8 = a'.token.toList.take 8

namespace RefreshGrant

variable {g : RefreshGrant} {now : Instant} {s s' : Session} {status : ℕ}
  {headers : List (String × String)} {body body' : List UInt8} {arrival : Arrival}
  {a a' : TokenAnswer}

lemma ne_empty_of_long {t : String} (h : 12 < t.toList.length) : t ≠ "" := by
  rintro rfl
  exact absurd h (by decide)

/-- An accepted answer shows of its token what is logged of every token, and when it expires. -/
lemma receive_of_decode (url : String) (now : Instant) (headers : List (String × String))
    (arrival : Arrival) (h : TokenAnswer.record.decoder.decode body = .ok a)
    (ht : a.token ≠ "") :
    receive url now (some (.response 200 headers body arrival)) =
      ((lifetime (arrival.instant now) a).map fun t => ⟨a.token, t⟩,
        (lifetime (arrival.instant now) a).toOption.toList.map fun t =>
          ⟨.debug, "Access token obtained", [("token", .text (Log.redact a.token))],
            [("expires_at", t)]⟩) := by
  rw [receive, credentialOf_of_decode h ht]
  rcases lifetime (arrival.instant now) a with e | t <;> rfl

/-- A rejected answer shows its body. -/
lemma receive_of_rejected (url : String) (now : Instant) (headers : List (String × String))
    (body : List UInt8) (arrival : Arrival) (h : status ≠ 200) :
    receive url now (some (.response status headers body arrival)) =
      (.error (.authentication (.exchangeRefused status)), [⟨.warn, "Token exchange rejected",
        [("status", .count status), ("body", .text (Log.excerpt body))], []⟩]) := by
  rw [receive, if_pos h]

lemma exchange_of_empty (h : g.refreshToken = "") (now : Instant) (s : Session) :
    g.exchange now s = (.error (.authentication .emptyRefreshToken), s) := by
  rw [exchange, if_pos h]
  rfl

/-- What is received with an accepted answer does not depend on the rest of a token. -/
lemma receive_of_akin (url : String) (now : Instant) (headers : List (String × String))
    (arrival : Arrival)
    (hd : TokenAnswer.record.decoder.decode body = .ok a)
    (hd' : TokenAnswer.record.decoder.decode body' = .ok a') (ha : a.Akin a') :
    (receive url now (some (.response 200 headers body arrival))).2 =
        (receive url now (some (.response 200 headers body' arrival))).2 ∧
      (receive url now (some (.response 200 headers body arrival))).1.map Credential.expiresAt =
        (receive url now (some (.response 200 headers body' arrival))).1.map
          Credential.expiresAt := by
  have hl : lifetime (arrival.instant now) a = lifetime (arrival.instant now) a' := by
    rw [lifetime, lifetime, ha.expiresIn]
  rw [receive_of_decode url now headers arrival hd (ne_empty_of_long ha.long),
    receive_of_decode url now headers arrival hd' (ne_empty_of_long ha.long'), hl,
    Log.redact_congr ha.long ha.long' ha.begins]
  refine ⟨rfl, ?_⟩
  rcases lifetime (arrival.instant now) a' with e | t <;> rfl

/-- Texts with different tokens look different in the log, unless they are cut. -/
lemma excerpt_ne_of_token_ne {x x' : String}
    (hd : TokenAnswer.record.decoder.decode (Utf8.ofString x) = .ok a)
    (hd' : TokenAnswer.record.decoder.decode (Utf8.ofString x') = .ok a')
    (hne : a.token ≠ a'.token) (hx : (Utf8.ofString x).length ≤ Log.bodyLimit)
    (hx' : (Utf8.ofString x').length ≤ Log.bodyLimit) :
    Log.excerpt (Utf8.ofString x) ≠ Log.excerpt (Utf8.ofString x') := by
  rw [Log.excerpt_ofString hx, Log.excerpt_ofString hx']
  rintro rfl
  rw [hd] at hd'
  cases hd'
  exact hne rfl

/-- **What an exchange shows of its token.** Take two exchanges of the same grant at the same time,
whose answers have the same status and headers, arrive at the same time and say the same but for
tokens that are long and begin alike. They log the same just if nothing is sent, if the status is
200, or if what is logged of the bodies is the same. A text that is not cut is logged whole, so
there different tokens show. Whatever else comes of the exchanges is the same in any case. -/
theorem exchange_shows_token (g : RefreshGrant) (now : Instant)
    (hn : s.transport.next? = some (.response status headers body arrival))
    (hn' : s'.transport.next? = some (.response status headers body' arrival))
    (hd : TokenAnswer.record.decoder.decode body = .ok a)
    (hd' : TokenAnswer.record.decoder.decode body' = .ok a') (ha : a.Akin a') :
    ∃ es es', (g.exchange now s).2.log = s.log ++ es ∧ (g.exchange now s').2.log = s'.log ++ es' ∧
      (es = es' ↔ g.refreshToken = "" ∨ status = 200 ∨ Log.excerpt body = Log.excerpt body') ∧
      (∀ x x', body = Utf8.ofString x → body' = Utf8.ofString x' → a.token ≠ a'.token →
        body.length ≤ Log.bodyLimit → body'.length ≤ Log.bodyLimit →
        Log.excerpt body ≠ Log.excerpt body') ∧
      (g.exchange now s).1.map Credential.expiresAt =
        (g.exchange now s').1.map Credential.expiresAt := by
  have hcut (x x' : String) (hx : body = Utf8.ofString x) (hx' : body' = Utf8.ofString x')
      (hne : a.token ≠ a'.token) (hlen : body.length ≤ Log.bodyLimit)
      (hlen' : body'.length ≤ Log.bodyLimit) : Log.excerpt body ≠ Log.excerpt body' := by
    subst hx hx'
    exact excerpt_ne_of_token_ne hd hd' hne hlen hlen'
  by_cases hg : g.refreshToken = ""
  · -- nothing is sent, so nothing is logged
    rw [exchange_of_empty hg, exchange_of_empty hg]
    exact ⟨[], [], by simp, by simp, by simp [hg], hcut, rfl⟩
  rw [exchange_apply hg, exchange_apply hg, hn, hn']
  by_cases hs : status = 200
  · subst hs
    obtain ⟨hevents, hends⟩ := receive_of_akin g.tokenUrl now headers arrival hd hd' ha
    exact ⟨_, _, rfl, rfl, by simp [hevents], hcut, hends⟩
  · rw [receive_of_rejected g.tokenUrl now headers body arrival hs,
      receive_of_rejected g.tokenUrl now headers body' arrival hs]
    refine ⟨_, _, rfl, rfl, ?_, hcut, rfl⟩
    simp [hg, hs]

end RefreshGrant

/-! ### A sample -/

namespace Sample

def sampleGrant : RefreshGrant := ⟨"https://h/oauth2/token", "key", "secret", "refresh"⟩

/-- A session in which an exchange is answered with a status and a token. -/
def answeringToken (status : ℕ) (token : String) : Session :=
  .start ⟨[.response status [] (Utf8.ofString (tokenAnswer token).toText)], none, []⟩

lemma next?_answeringToken (status : ℕ) (token : String) :
    (answeringToken status token).transport.next? =
      some (.response status [] (Utf8.ofString (tokenAnswer token).toText)) := rfl

lemma log_answeringToken (status : ℕ) (token : String) :
    (answeringToken status token).log = [] := rfl

lemma akin_tokens :
    TokenAnswer.Akin ⟨"sl.ABCDEFGHIJKLM", some 14400⟩ ⟨"sl.ABCDENOPQRSTU", some 14400⟩ :=
  ⟨rfl, by decide, by decide, by decide⟩

end Sample

open Sample in
theorem RefreshGrant.exchange_shows_token_accepted :
    TokenAnswer.Akin ⟨"sl.ABCDEFGHIJKLM", some 14400⟩ ⟨"sl.ABCDENOPQRSTU", some 14400⟩ ∧
      (sampleGrant.exchange ⟨0, 0⟩ (answeringToken 200 "sl.ABCDEFGHIJKLM")).2.log =
        (sampleGrant.exchange ⟨0, 0⟩ (answeringToken 200 "sl.ABCDENOPQRSTU")).2.log := by
  have hd : TokenAnswer.record.decoder.decode
      (Utf8.ofString (tokenAnswer "sl.ABCDEFGHIJKLM").toText) =
        .ok ⟨"sl.ABCDEFGHIJKLM", some 14400⟩ := by decide +kernel
  have hd' : TokenAnswer.record.decoder.decode
      (Utf8.ofString (tokenAnswer "sl.ABCDENOPQRSTU").toText) =
        .ok ⟨"sl.ABCDENOPQRSTU", some 14400⟩ := by decide +kernel
  obtain ⟨es, es', hes, hes', hiff, -⟩ := exchange_shows_token sampleGrant ⟨0, 0⟩
    (next?_answeringToken 200 _) (next?_answeringToken 200 _) hd hd' akin_tokens
  refine ⟨akin_tokens, ?_⟩
  rw [hes, hes', hiff.mpr (.inr (.inl rfl)), log_answeringToken, log_answeringToken]

open Sample in
/-- With the status 201 the same tokens tell the logs apart. -/
theorem RefreshGrant.exchange_shows_token_rejected :
    TokenAnswer.Akin ⟨"sl.ABCDEFGHIJKLM", some 14400⟩ ⟨"sl.ABCDENOPQRSTU", some 14400⟩ ∧
      (sampleGrant.exchange ⟨0, 0⟩ (answeringToken 201 "sl.ABCDEFGHIJKLM")).2.log ≠
        (sampleGrant.exchange ⟨0, 0⟩ (answeringToken 201 "sl.ABCDENOPQRSTU")).2.log := by
  refine ⟨akin_tokens, ?_⟩
  decide +kernel

end TeamSync
