import TeamSync.Proofs.Numerals
import TeamSync.Proofs.Quota

/-!
How the fields of a reported rate limit are read off the headers. Each field is what its own header
says and no other, but for the time of restoration: where the reset header gives none, it is taken
from the delay to wait.
-/

namespace TeamSync

/-! ### Instants -/

namespace Instant

/-- Some seconds later, whether or not the calendar goes so far. A leap second is over by then. -/
def later (t : Instant) (d : ℕ) : Instant :=
  ⟨t.seconds + d, if t.inLeapSecond ∧ d ≠ 0 then t.nanos - 1000000000 else t.nanos⟩

variable {t u : Instant}

lemma inCalendar_later_iff (h : t.InCalendar) (d : ℕ) :
    (t.later d).InCalendar ↔ t.seconds + d ≤ lastSecond := by
  obtain ⟨hfirst, -, hnanos⟩ := h
  simp only [InCalendar, later, inLeapSecond, decide_eq_true_eq]
  split_ifs with hleap
  · omega
  · rcases Nat.eq_zero_or_pos d with rfl | hd
    · simp_all
    · omega

lemma at?_eq_some_iff {seconds : Int} {nanos : ℕ} : at? seconds nanos = some u ↔
    u = ⟨seconds, nanos⟩ ∧ firstSecond ≤ seconds ∧ seconds ≤ lastSecond := by
  rw [at?, Option.ite_none_right_eq_some, Option.some.injEq, and_comm, eq_comm]

/-- Going forward, an instant is reached just if the calendar has it. -/
lemma add?_eq_some_iff (h : t.InCalendar) (d : ℕ) :
    t.add? d = some u ↔ u = t.later d ∧ u.InCalendar := by
  have hfirst : firstSecond ≤ t.seconds + d := by
    have := h.1
    omega
  have hat : t.add? d = at? (t.later d).seconds (t.later d).nanos := by
    have hforward : ¬((d : Int) < 0) := by omega
    by_cases hleap : t.inLeapSecond = true ∧ d ≠ 0
    · have hleap' : t.inLeapSecond = true ∧ (d : Int) ≠ 0 := ⟨hleap.1, by omega⟩
      rw [add?, if_pos hleap', if_neg hforward, Int.add_zero, later, if_pos hleap]
    · have hleap' : ¬(t.inLeapSecond = true ∧ (d : Int) ≠ 0) := fun hb =>
        hleap ⟨hb.1, by have := hb.2; omega⟩
      rw [add?, if_neg hleap', later, if_neg hleap]
  rw [hat, at?_eq_some_iff]
  constructor
  · rintro ⟨rfl, -, hlast⟩
    exact ⟨rfl, (inCalendar_later_iff h d).mpr hlast⟩
  · rintro ⟨rfl, hin⟩
    exact ⟨rfl, hfirst, (inCalendar_later_iff h d).mp hin⟩

lemma ofEpoch?_eq_some_iff {r : Int} : ofEpoch? r = some u ↔ u = ⟨r, 0⟩ ∧ u.InCalendar := by
  rw [ofEpoch?, at?_eq_some_iff]
  constructor
  · rintro ⟨rfl, hfirst, hlast⟩
    exact ⟨rfl, hfirst, hlast, .inl (show 0 < 1000000000 by decide)⟩
  · rintro ⟨rfl, hfirst, hlast, -⟩
    exact ⟨rfl, hfirst, hlast⟩

end Instant

/-! ### Headers -/

namespace Http.Headers

/-- The value of a header is some text with spaces and tabs around it. -/
def Holds (hs : Headers) (name : String) (text : List Char → Prop) : Prop :=
  ∃ v before cs after, hs.get? name = some v ∧ v.toList = before ++ cs ++ after ∧
    (∀ c ∈ before ++ after, c = ' ' ∨ c = '\t') ∧ text cs

/-- The headers but those with some name. -/
def without (hs : Headers) (name : String) : Headers := hs.filter (·.1 ≠ name)

variable {hs : Headers} {name : String}

lemma get?_without (n : String) :
    (hs.without name).get? n = if n = name then none else hs.get? n := by
  induction hs with
  | nil => simp [without, get?]
  | cons h hs ih =>
    simp only [without] at ih ⊢
    by_cases hname : h.1 = name
    · rw [List.filter_cons_of_neg (by simp [hname]), ih, get?_cons, hname]
      by_cases hn : n = name
      · rw [if_pos hn, if_pos hn]
      · rw [if_neg hn, if_neg hn, if_neg (Ne.symm hn)]
    · rw [List.filter_cons_of_pos (by simp [hname]), get?_cons, get?_cons, ih]
      by_cases hn : h.1 = n
      · rw [if_pos hn, if_pos hn, if_neg (hn ▸ hname)]
      · rw [if_neg hn, if_neg hn]

lemma text?_eq_some_iff {v : String} :
    hs.text? name = some v ↔ hs.get? name = some v ∧ isReadable v = true := by
  rw [text?, Option.filter_eq_some_iff]

/-- What can stand in a value, and is no blank. -/
def IsVisible (c : Char) : Prop := 0x21 ≤ c.toNat ∧ c.toNat ≤ 0x7E

lemma isBlank_of_isVisible {c : Char} (h : IsVisible c) : Text.isBlank c = false := by
  obtain ⟨hlo, hhi⟩ := h
  simp [Text.isBlank]
  omega

/-- The blanks of a value that can be read are spaces and tabs. -/
lemma eq_of_isBlank {v : String} (hv : isReadable v = true) {c : Char} (hc : c ∈ v.toList)
    (h : Text.isBlank c = true) : c = ' ' ∨ c = '\t' := by
  have hall := List.all_eq_true.mp hv c hc
  simp only [Bool.or_eq_true, decide_eq_true_eq, Bool.and_eq_true] at hall
  rcases hall with htab | ⟨hlo, hhi⟩
  · exact .inr htab
  · refine .inl (Char.toNat_inj.mp ?_)
    have hspace : ' '.toNat = 0x20 := rfl
    simp [Text.isBlank] at h
    omega

/-- A text of visible characters is left of a header when its blanks are trimmed just if the header
holds it. -/
lemma trim_iff_holds {P : List Char → Prop} (hP : ∀ cs, P cs → ∀ c ∈ cs, IsVisible c) :
    (∃ v, hs.text? name = some v ∧ P (Text.trim v).toList) ↔ hs.Holds name P := by
  constructor
  · rintro ⟨v, hv, hp⟩
    obtain ⟨hget, hread⟩ := text?_eq_some_iff.mp hv
    obtain ⟨before, after, hsplit, hblank⟩ := Text.trimChars_split v.toList
    refine ⟨v, before, _, after, hget, hsplit, fun c hc => ?_, by simpa [Text.trim] using hp⟩
    have hmem : c ∈ v.toList := by
      rw [hsplit]
      simp only [List.mem_append] at hc ⊢
      exact hc.elim (fun h => .inl (.inl h)) .inr
    exact eq_of_isBlank hread hmem (hblank c hc)
  · rintro ⟨v, before, cs, after, hget, hsplit, hblank, hp⟩
    have hcs := hP cs hp
    have hread : isReadable v = true := by
      rw [isReadable, hsplit, List.all_eq_true]
      intro c hc
      have hcase : (c ∈ before ++ after) ∨ c ∈ cs := by
        simp only [List.mem_append] at hc ⊢
        tauto
      rcases hcase with hc | hc
      · rcases hblank c hc with rfl | rfl <;> decide
      · obtain ⟨hlo, hhi⟩ := hcs c hc
        simp only [Bool.or_eq_true, decide_eq_true_eq, Bool.and_eq_true]
        omega
    have htrim : Text.trimChars v.toList = cs := by
      refine (Text.trimChars_eq_iff fun c hc => isBlank_of_isVisible (hcs c hc)).mpr
        ⟨before, after, hsplit, fun c hc => ?_⟩
      rcases hblank c hc with rfl | rfl <;> decide
    exact ⟨v, text?_eq_some_iff.mpr ⟨hget, hread⟩, by simpa [Text.trim, htrim] using hp⟩

end Http.Headers

open Http

namespace Numeral

lemma isVisible_of_isDigit {c : Char} (h : c.isDigit = true) : Headers.IsVisible c := by
  simp only [Char.isDigit, Bool.and_eq_true, decide_eq_true_eq] at h
  have hlo : 48 ≤ c.toNat := h.1
  have hhi : c.toNat ≤ 57 := h.2
  exact ⟨by omega, by omega⟩

lemma Unsigned.isVisible {n : ℕ} {cs : List Char} (h : Unsigned n cs) :
    ∀ c ∈ cs, Headers.IsVisible c := by
  obtain ⟨ds, rfl | rfl, hw⟩ := h
  · exact fun c hc => isVisible_of_isDigit (hw.isDigit c hc)
  · rw [List.forall_mem_cons]
    exact ⟨by unfold Headers.IsVisible; decide, fun c hc => isVisible_of_isDigit (hw.isDigit c hc)⟩

lemma Signed.isVisible {i : Int} {cs : List Char} (h : Signed i cs) :
    ∀ c ∈ cs, Headers.IsVisible c := by
  obtain ⟨n, ⟨-, hu⟩ | ⟨-, ds, rfl, hw⟩⟩ := h
  · exact hu.isVisible
  · rw [List.forall_mem_cons]
    exact ⟨by unfold Headers.IsVisible; decide, fun c hc => isVisible_of_isDigit (hw.isDigit c hc)⟩

end Numeral

/-! ### The fields of a rate limit -/

namespace RateLimit

variable {hs : Headers} {now t : Instant} {name : String}

/-- **A number is read of a header just if the header holds it.** -/
theorem count?_eq_some_iff {n : UInt64} :
    count? hs name = some n ↔ hs.Holds name (Numeral.Unsigned n.toNat) := by
  rw [count?, Option.bind_eq_some_iff, ← Headers.trim_iff_holds fun _ h => h.isVisible]
  simp only [Numeral.uint64?_eq_some_iff]

/-- The time of restoration that the reset header announces: so many seconds from now if it holds a
small number, and else the second with the number. The calendar has to have it. -/
def Announces (hs : Headers) (now t : Instant) : Prop :=
  ∃ r, hs.Holds "x-ratelimit-reset" (Numeral.Signed r) ∧
    ((0 ≤ r ∧ r < 1000000000 ∧ t = now.later r.toNat) ∨ (1000000000 ≤ r ∧ t = ⟨r, 0⟩)) ∧
    t.InCalendar

lemma resetOf?_eq_some_iff (h : now.InCalendar) {r : Int} : resetOf? now r = some t ↔
    ((0 ≤ r ∧ r < 1000000000 ∧ t = now.later r.toNat) ∨ (1000000000 ≤ r ∧ t = ⟨r, 0⟩)) ∧
      t.InCalendar := by
  have hdate : firstDate = 1000000000 := rfl
  unfold resetOf?
  split_ifs with hneg hsmall
  · have hno : ¬0 ≤ r ∧ ¬1000000000 ≤ r := by omega
    simp [hno]
  · obtain ⟨d, rfl⟩ := Int.eq_ofNat_of_zero_le (Int.not_lt.mp hneg)
    have hlow : (0 : Int) ≤ d ∧ (d : Int) < 1000000000 ∧ ¬1000000000 ≤ (d : Int) := by omega
    rw [Instant.add?_eq_some_iff h, Int.toNat_natCast]
    simp only [hlow, true_and, false_and, or_false]
  · have hhigh : ¬r < 1000000000 ∧ 1000000000 ≤ r := by omega
    rw [Instant.ofEpoch?_eq_some_iff]
    simp only [hhigh, false_and, and_false, true_and, false_or]

/-- **The reset header gives a time of restoration just if it announces it.** -/
theorem resetRead?_eq_some_iff (h : now.InCalendar) :
    resetRead? hs now = some t ↔ Announces hs now t := by
  simp only [resetRead?, Option.bind_eq_some_iff, Numeral.int64?_eq_some_iff,
    resetOf?_eq_some_iff h]
  constructor
  · rintro ⟨r, ⟨v, hv, hr, -⟩, hreset⟩
    exact ⟨r, (Headers.trim_iff_holds fun _ h => h.isVisible).mp ⟨v, hv, hr⟩, hreset⟩
  · rintro ⟨r, hholds, hreset⟩
    obtain ⟨v, hv, hr⟩ := (Headers.trim_iff_holds fun _ h => h.isVisible).mpr hholds
    -- a number that does not fit 64 bits is no time of the calendar
    have hbound : -0x8000000000000000 ≤ r ∧ r < 0x8000000000000000 := by
      obtain ⟨⟨hlo, hhi, -⟩ | ⟨hlo, rfl⟩, hin⟩ := hreset
      · omega
      · have hlast : r ≤ Instant.lastSecond := hin.2.1
        have : Instant.lastSecond = 8210266876799 := rfl
        omega
    exact ⟨r, ⟨v, hv, hr, hbound⟩, hreset⟩

/-- The time of restoration is what the reset header announces, or else the end of the delay. -/
lemma reset?_eq_some_iff (h : now.InCalendar) : reset? hs now = some t ↔
    Announces hs now t ∨ (¬∃ u, Announces hs now u) ∧
      ∃ d : UInt64, hs.Holds "retry-after" (Numeral.Unsigned d.toNat) ∧ t = now.later d.toNat ∧
        t.InCalendar := by
  have hor : reset? hs now = (resetRead? hs now <|>
      (count? hs "retry-after").bind fun d => now.add? d.toNat) := rfl
  rw [hor]
  simp only [← resetRead?_eq_some_iff h, ← count?_eq_some_iff, ← Instant.add?_eq_some_iff h]
  rcases resetRead? hs now with _ | u
  · simp [Option.bind_eq_some_iff]
  · simp

/-- A header that gives the field it is for. -/
def Tells (hs : Headers) (now : Instant) (name : String) : Prop :=
  (name = "x-ratelimit-reset" ∧ ∃ t, Announces hs now t) ∨
    (name ∈ ["x-ratelimit-limit", "x-ratelimit-remaining", "retry-after"] ∧
      ∃ n : UInt64, hs.Holds name (Numeral.Unsigned n.toNat))

/-! ### Headers apart from each other -/

variable {hs' : Headers}

lemma count?_congr (h : hs'.get? name = hs.get? name) : count? hs' name = count? hs name := by
  rw [count?, count?, Headers.text?, Headers.text?, h]

lemma resetRead?_congr (h : hs'.get? "x-ratelimit-reset" = hs.get? "x-ratelimit-reset") :
    resetRead? hs' now = resetRead? hs now := by
  rw [resetRead?, resetRead?, Headers.text?, Headers.text?, h]

lemma reset?_congr (h : resetRead? hs' now = resetRead? hs now)
    (hd : resetRead? hs now = none → count? hs' "retry-after" = count? hs "retry-after") :
    reset? hs' now = reset? hs now := by
  have hor (xs : Headers) : reset? xs now = (resetRead? xs now <|>
      (count? xs "retry-after").bind fun d => now.add? d.toNat) := rfl
  rw [hor, hor, h]
  rcases hr : resetRead? hs now with _ | t
  · rw [hd hr]
  · rfl

/-- A header from which no number is read might as well be missing. -/
lemma count?_without (hn : name ∈ ["x-ratelimit-limit", "x-ratelimit-remaining", "retry-after"])
    {n : String} (h : ¬Tells hs now n) : count? (hs.without n) name = count? hs name := by
  by_cases hname : name = n
  · subst hname
    have hnone : count? hs name = none := by
      rw [Option.eq_none_iff_forall_ne_some]
      exact fun m hm => h (.inr ⟨hn, m, count?_eq_some_iff.mp hm⟩)
    rw [hnone, count?, Headers.text?, Headers.get?_without, if_pos rfl]
    rfl
  · exact count?_congr (by rw [Headers.get?_without, if_neg hname])

lemma resetRead?_without (hnow : now.InCalendar) {n : String} (h : ¬Tells hs now n) :
    resetRead? (hs.without n) now = resetRead? hs now := by
  by_cases hname : "x-ratelimit-reset" = n
  · subst hname
    have hnone : resetRead? hs now = none := by
      rw [Option.eq_none_iff_forall_ne_some]
      exact fun t ht => h (.inl ⟨rfl, t, (resetRead?_eq_some_iff hnow).mp ht⟩)
    rw [hnone, resetRead?, Headers.text?, Headers.get?_without, if_pos rfl]
    rfl
  · exact resetRead?_congr (by rw [Headers.get?_without, if_neg hname])

/-- **What the headers of a rate limit say.** The limit, what is left of it and the delay to wait
are the numbers of 64 bits that their headers hold, and they are missing where a header holds none.
The quota is restored so many seconds from now as the reset header holds, or at the second that it
holds, if the calendar has that; and else at the end of the delay, if the calendar has this. A
header that does not give its field might as well be missing. However a header differs, the fields
of the others are the same; only a delay may decide the time of restoration too, where the reset
header gives none. -/
theorem headers_of_response (status : ℕ) (hs : Headers) (h : now.InCalendar) :
    let r := ofResponse status hs now
    (∀ n, r.limit = some n ↔ hs.Holds "x-ratelimit-limit" (Numeral.Unsigned n.toNat)) ∧
    (∀ n, r.remaining = some n ↔ hs.Holds "x-ratelimit-remaining" (Numeral.Unsigned n.toNat)) ∧
    (∀ d, r.retryAfter = some d ↔ hs.Holds "retry-after" (Numeral.Unsigned d.toNat)) ∧
    (∀ t, r.resetAt = some t ↔ Announces hs now t ∨ (¬∃ u, Announces hs now u) ∧
      ∃ d : UInt64, hs.Holds "retry-after" (Numeral.Unsigned d.toNat) ∧ t = now.later d.toNat ∧
        t.InCalendar) ∧
    (∀ t, r.resetAt = some t → t.InCalendar) ∧
    (∀ name, ¬Tells hs now name → ofResponse status (hs.without name) now = r) ∧
    ∀ hs' name, (∀ n ≠ name, Headers.get? hs' n = hs.get? n) →
      let r' := ofResponse status hs' now
      (name ≠ "x-ratelimit-limit" → r'.limit = r.limit) ∧
      (name ≠ "x-ratelimit-remaining" → r'.remaining = r.remaining) ∧
      (name ≠ "retry-after" → r'.retryAfter = r.retryAfter) ∧
      (name ≠ "x-ratelimit-reset" → (name = "retry-after" → ∃ t, Announces hs now t) →
        r'.resetAt = r.resetAt) := by
  intro r
  have hreset (t : Instant) : r.resetAt = some t ↔ _ := reset?_eq_some_iff h
  refine ⟨fun _ => count?_eq_some_iff, fun _ => count?_eq_some_iff, fun _ => count?_eq_some_iff,
    hreset, fun t ht => ?inCalendar, fun name hname => ?missing, fun hs' name hget => ?apart⟩
  case inCalendar =>
    rcases (hreset t).mp ht with ⟨-, -, -, hin⟩ | ⟨-, -, -, -, hin⟩
    · exact hin
    · exact hin
  case missing =>
    have hcount {n : String}
        (hn : n ∈ ["x-ratelimit-limit", "x-ratelimit-remaining", "retry-after"]) :=
      count?_without hn hname
    have hread := reset?_congr (resetRead?_without h hname) fun _ => hcount (by simp)
    rw [ofResponse, hcount (by simp), hcount (by simp), hcount (by simp), hread]
    rfl
  case apart =>
    intro r'
    refine ⟨fun hn => count?_congr (hget _ hn.symm), fun hn => count?_congr (hget _ hn.symm),
      fun hn => count?_congr (hget _ hn.symm), fun hn hdelay => ?_⟩
    refine reset?_congr (resetRead?_congr (hget _ hn.symm)) fun hnone => ?_
    refine count?_congr (hget _ ?_)
    rintro rfl
    obtain ⟨t, ht⟩ := hdelay rfl
    rw [(resetRead?_eq_some_iff h).mpr ht] at hnone
    cases hnone

/-- Numerals with zeros, a sign and blanks. -/
theorem headers_of_response_padded :
    Instant.InCalendar ⟨1700000000, 0⟩ ∧
      (ofResponse 200 [("x-ratelimit-limit", " +0010"), ("x-ratelimit-reset", "\t1000000000 ")]
        ⟨1700000000, 0⟩).limit = some 10 ∧
      (ofResponse 200 [("x-ratelimit-limit", " +0010"), ("x-ratelimit-reset", "\t1000000000 ")]
        ⟨1700000000, 0⟩).resetAt = some ⟨1000000000, 0⟩ := by
  have hin : Instant.InCalendar ⟨1700000000, 0⟩ := by decide
  obtain ⟨hlimit, -, -, hreset, -⟩ := headers_of_response 200
    [("x-ratelimit-limit", " +0010"), ("x-ratelimit-reset", "\t1000000000 ")] hin
  refine ⟨hin, (hlimit 10).mpr ?_, (hreset _).mpr
    (.inl ⟨1000000000, ?_, .inr ⟨by decide, rfl⟩, by decide⟩)⟩
  · exact ⟨" +0010", [' '], "+0010".toList, [], rfl, rfl, by decide, "0010".toList, .inr rfl, 2,
      rfl⟩
  · exact ⟨"\t1000000000 ", ['\t'], "1000000000".toList, [' '], rfl, rfl, by decide, 1000000000,
      .inl ⟨rfl, "1000000000".toList, .inl rfl, 0, rfl⟩⟩

end RateLimit

end TeamSync
