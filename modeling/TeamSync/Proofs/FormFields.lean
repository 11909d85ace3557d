import TeamSync.Proofs.Course
import TeamSync.Proofs.Url.Encoded

/-!
Form bodies are read back. Each name and each value is written in characters that separate nothing
and is read as what it was, so a body holds the pairs it was made of and no others.
-/

namespace TeamSync

namespace Form

open Text

variable {c d : Char}

/-! ### Written characters -/

/-- What a name or value is written in. -/
def textChars : List Char := '+' :: Url.escapeChars

lemma mem_encodeChar (h : c ∈ encodeChar d) : isKept c = true ∨ c ∈ textChars := by
  rw [encodeChar] at h
  split_ifs at h with hspace hkept
  · rw [List.mem_singleton.mp h]
    exact .inr List.mem_cons_self
  · rw [List.mem_singleton.mp h]
    exact .inl hkept
  · obtain ⟨b, -, hb⟩ := List.mem_flatMap.mp h
    exact .inr (List.mem_cons_of_mem _ (Url.mem_encodeByte hb))

/-- No name and no value holds a separator. -/
lemma ne_of_mem_encodeText {s : String} (h : c ∈ encodeText s) : c ≠ '&' ∧ c ≠ '=' := by
  obtain ⟨d, -, hc⟩ := List.mem_flatMap.mp h
  rcases mem_encodeChar hc with hkept | htext
  · constructor
    · rintro rfl
      exact absurd hkept (by decide)
    · rintro rfl
      exact absurd hkept (by decide)
  · have hall : ∀ c ∈ textChars, c ≠ '&' ∧ c ≠ '=' := by decide
    exact hall c htext

/-! ### Names and values -/

/-- The text in which each `+` is a space again. -/
def respaced (cs : List Char) : List Char := cs.map fun c => if c = '+' then ' ' else c

lemma respaced_of_not_mem {cs : List Char} (h : '+' ∉ cs) : respaced cs = cs := by
  have hid : ∀ c ∈ cs, (if c = '+' then ' ' else c) = id c := by
    intro c hc
    refine if_neg ?_
    rintro rfl
    exact h hc
  rw [respaced, List.map_congr_left hid, List.map_id]

/-- A character that is written is read as its bytes. -/
lemma percentDecode_encodeChar (c : Char) (cs : List Char) :
    Url.percentDecode (respaced (encodeChar c ++ cs)) =
      String.utf8EncodeChar c ++ Url.percentDecode (respaced cs) := by
  rw [encodeChar]
  split_ifs with hspace hkept
  · subst hspace
    exact Url.percentDecode_cons (by decide) _
  · have hplus : c ≠ '+' := by
      rintro rfl
      exact absurd hkept (by decide)
    have hpercent : c ≠ '%' := by
      rintro rfl
      exact absurd hkept (by decide)
    have hc : respaced ([c] ++ cs) = c :: respaced cs := by
      simp [respaced, hplus]
    rw [hc, Url.percentDecode_cons hpercent]
  · have hplus : '+' ∉ (String.utf8EncodeChar c).flatMap Url.encodeByte := fun h => by
      obtain ⟨b, -, hb⟩ := List.mem_flatMap.mp h
      exact absurd (Url.mem_encodeByte hb) (by decide)
    have hc : respaced ((String.utf8EncodeChar c).flatMap Url.encodeByte ++ cs) =
        (String.utf8EncodeChar c).flatMap Url.encodeByte ++ respaced cs := by
      rw [respaced, List.map_append, ← respaced, ← respaced, respaced_of_not_mem hplus]
    rw [hc, Url.percentDecode_encodeBytes]

/-- **A name or value is read as what it was.** -/
theorem decodeText_encodeText (s : String) : decodeText (encodeText s) = s := by
  have hbytes (cs : List Char) :
      Url.percentDecode (respaced (cs.flatMap encodeChar)) = Utf8.encode cs := by
    induction cs with
    | nil => rfl
    | cons c cs ih =>
      rw [List.flatMap_cons, percentDecode_encodeChar, ih]
      rfl
  have hread : decodeText (encodeText s) = Utf8.toStringLossy (Utf8.ofString s) :=
    congrArg Utf8.toStringLossy (hbytes s.toList)
  rw [hread, Utf8.toStringLossy_ofString]

/-! ### Pairs -/

/-- A pair is cut at the sign that was put into it. -/
lemma decodePair_encodePair (p : String × String) : decodePair (encodePair p) = p := by
  have hname : ∀ c ∈ encodeText p.1, decide (c ≠ '=') = true := fun c hc =>
    decide_eq_true (ne_of_mem_encodeText hc).2
  have htake : (encodePair p).takeWhile (· ≠ '=') = encodeText p.1 := by
    rw [encodePair, List.takeWhile_append_of_pos hname]
    simp
  have hdrop : (encodePair p).dropWhile (· ≠ '=') = '=' :: encodeText p.2 := by
    rw [encodePair, List.dropWhile_append_of_pos hname]
    simp
  rw [decodePair, htake, hdrop, List.drop_one, List.tail_cons, decodeText_encodeText,
    decodeText_encodeText]

lemma mem_encodePair {p : String × String} (h : c ∈ encodePair p) :
    c = '=' ∨ ∃ s, c ∈ encodeText s := by
  rcases List.mem_append.mp h with h | h
  · exact .inr ⟨p.1, h⟩
  · exact (List.mem_cons.mp h).imp_right fun h => ⟨p.2, h⟩

/-- **A form body holds the pairs it was made of**, in order. -/
theorem decode_encode (ps : List (String × String)) : decode (encode ps) = ps := by
  rcases ps.eq_nil_or_concat with rfl | ⟨qs, q, rfl⟩
  · rfl
  generalize hps : qs.concat q = ps
  have hne : ps.map encodePair ≠ [] := by
    rw [← hps]
    simp
  have hsplit : splitAt (· = '&') (encode ps).toList = ps.map encodePair := by
    have htext : (encode ps).toList = joined '&' (ps.map encodePair) := String.toList_ofList
    rw [htext]
    refine splitAt_joined hne (by decide) fun t ht c hc => decide_eq_false ?_
    obtain ⟨p, -, rfl⟩ := List.mem_map.mp ht
    rcases mem_encodePair hc with rfl | ⟨s, hs⟩
    · decide
    · exact (ne_of_mem_encodeText hs).1
  have hkeep : (ps.map encodePair).filter (· ≠ []) = ps.map encodePair := by
    refine List.filter_eq_self.mpr fun t ht => decide_eq_true ?_
    obtain ⟨p, -, rfl⟩ := List.mem_map.mp ht
    exact List.append_ne_nil_of_right_ne_nil _ (List.cons_ne_nil _ _)
  rw [decode, hsplit, hkeep, List.map_map]
  exact (List.map_congr_left fun p _ => decodePair_encodePair p).trans (List.map_id ps)

/-- Different fields make different bodies. -/
lemma encode_injective : Function.Injective encode := fun ps qs h => by
  rw [← decode_encode ps, h, decode_encode]

/-- The characters of a body are ASCII: those that are kept, and those that are put in. -/
lemma mem_encode {ps : List (String × String)} (h : c ∈ (encode ps).toList) :
    c.isAlphanum = true ∨ c ∈ "*-._+%&=".toList := by
  have htext : (encode ps).toList = joined '&' (ps.map encodePair) := String.toList_ofList
  rw [htext] at h
  rcases mem_joined h with rfl | ⟨t, ht, hc⟩
  · exact .inr (by decide)
  obtain ⟨p, -, rfl⟩ := List.mem_map.mp ht
  rcases mem_encodePair hc with rfl | ⟨s, hs⟩
  · exact .inr (by decide)
  obtain ⟨d, -, hd⟩ := List.mem_flatMap.mp hs
  rcases mem_encodeChar hd with hkept | hput
  · have hc : (((c.isAlphanum = true ∨ c = '*') ∨ c = '-') ∨ c = '.') ∨ c = '_' := by
      simpa [isKept] using hkept
    rcases hc with (((h | rfl) | rfl) | rfl) | rfl
    · exact .inl h
    all_goals exact .inr (by decide)
  · have hall : ∀ c ∈ textChars, c.isAlphanum = true ∨ c ∈ "*-._+%&=".toList := by decide
    exact hall c hput

end Form

namespace RefreshGrant

/-- **The body of an exchange holds what it was made of**: the kind of the grant, the refresh token,
the key and the secret, in this order and nothing else, whatever characters they hold. So two bodies
are the same only if these three are. The body is written in ASCII, and it is what the one request
of an exchange carries. -/
theorem body_reads_back (g : RefreshGrant) :
    Form.decode g.body = [("grant_type", "refresh_token"), ("refresh_token", g.refreshToken),
      ("client_id", g.appKey), ("client_secret", g.appSecret)] ∧
    (∀ g' : RefreshGrant, g.body = g'.body ↔
      g.refreshToken = g'.refreshToken ∧ g.appKey = g'.appKey ∧ g.appSecret = g'.appSecret) ∧
    (∀ c ∈ g.body.toList, c.isAlphanum = true ∨ c ∈ "*-._+%&=".toList) ∧
    (∀ (now : Instant) (s : Session), g.refreshToken ≠ "" →
      (g.exchange now s).2.transport.sent = s.transport.sent ++
        [⟨"POST", g.tokenUrl, [("content-type", "application/x-www-form-urlencoded"),
          ("accept", "application/json")], some g.body⟩]) := by
  refine ⟨Form.decode_encode _, fun g' => ⟨fun h => ?_, ?_⟩, fun c => Form.mem_encode,
    fun now s hg => ?_⟩
  · have hpairs := Form.encode_injective h
    simp only [List.cons.injEq, Prod.mk.injEq, true_and, and_true] at hpairs
    exact hpairs
  · rintro ⟨ht, hk, hs⟩
    rw [body, body, ht, hk, hs]
  · rw [exchange_apply hg, Session.spend_sent]
    rfl

end RefreshGrant

/-! ### A sample -/

namespace Sample

/-- A grant of which each part holds what separates pairs, or what is not ASCII. -/
def smuggling : RefreshGrant :=
  ⟨"https://h/oauth2/token", "k=1&grant_type=x", "s%26 +é", "r&client_id=y😀"⟩

end Sample

open Sample in
theorem RefreshGrant.body_reads_back_smuggling :
    smuggling.refreshToken ≠ "" ∧
      (smuggling.exchange ⟨0, 0⟩ (.start ⟨[], none, []⟩)).2.transport.sent =
        [⟨"POST", "https://h/oauth2/token",
          [("content-type", "application/x-www-form-urlencoded"), ("accept", "application/json")],
          some ("grant_type=refresh_token&refresh_token=r%26client_id%3Dy%F0%9F%98%80" ++
            "&client_id=k%3D1%26grant_type%3Dx&client_secret=s%2526+%2B%C3%A9")⟩] ∧
      Form.decode smuggling.body = [("grant_type", "refresh_token"),
        ("refresh_token", "r&client_id=y😀"), ("client_id", "k=1&grant_type=x"),
        ("client_secret", "s%26 +é")] := by
  obtain ⟨hdecode, -, -, hsent⟩ := body_reads_back smuggling
  have hne : smuggling.refreshToken ≠ "" := by decide
  have hbody : smuggling.body =
      "grant_type=refresh_token&refresh_token=r%26client_id%3Dy%F0%9F%98%80" ++
        "&client_id=k%3D1%26grant_type%3Dx&client_secret=s%2526+%2B%C3%A9" := by decide +kernel
  refine ⟨hne, ?_, hdecode⟩
  rw [hsent _ _ hne, hbody]
  rfl

end TeamSync
