import Mathlib.Data.Nat.Notation
import Mathlib.Order.Basic
import TeamSync.RateLimit

/-!
What the state of a reported rate limit says about its other fields. The state is decided by the
limit, by what is left of it and by the time it is restored. The delay to wait comes in through that
time alone, which it gives only while the calendar has it.
-/

namespace TeamSync

lemma Instant.at?_eq_none_iff {seconds : Int} {nanos : ℕ} (h : firstSecond ≤ seconds) :
    at? seconds nanos = none ↔ lastSecond < seconds := by
  unfold at?
  split
  · next hin =>
    have hle : seconds ≤ lastSecond := hin.2
    simp only [reduceCtorEq, false_iff]
    omega
  · next hout =>
    simp only [true_iff]
    by_contra hle
    exact hout ⟨h, by omega⟩

/-- Going forward, an instant is left out just if it lies behind the calendar. -/
lemma Instant.add?_eq_none_iff {t : Instant} (h : t.InCalendar) (d : ℕ) :
    t.add? d = none ↔ lastSecond < t.seconds + d := by
  have hfirst : firstSecond ≤ t.seconds + d := by
    have := h.1
    omega
  unfold add?
  split
  · have hforward : ¬((d : Int) < 0) := by omega
    rw [if_neg hforward, Int.add_zero]
    exact at?_eq_none_iff hfirst
  · exact at?_eq_none_iff hfirst

namespace RateLimit

/-- A descriptor that reports nothing. -/
def Silent (r : RateLimit) : Prop :=
  r.limit = none ∧ r.remaining = none ∧ r.resetAt = none ∧ r.retryAfter = none

/-- What the reset header says. -/
def resetRead? (hs : Http.Headers) (now : Instant) : Option Instant :=
  ((hs.text? "x-ratelimit-reset").bind fun v => Numeral.int64? (Text.trim v)).bind (resetOf? now)

/-- The delay to wait is all that is reported, and it ends behind the calendar. -/
def WaitsBeyond (hs : Http.Headers) (now : Instant) : Prop :=
  count? hs "x-ratelimit-limit" = none ∧ count? hs "x-ratelimit-remaining" = none ∧
    resetRead? hs now = none ∧
    ∃ d, count? hs "retry-after" = some d ∧ Instant.lastSecond < now.seconds + d.toNat

variable {status : ℕ} {hs : Http.Headers} {now : Instant}

/-! ### The time of restoration -/

lemma reset?_eq_none_iff (h : now.InCalendar) :
    reset? hs now = none ↔ resetRead? hs now = none ∧
      ∀ d, count? hs "retry-after" = some d → Instant.lastSecond < now.seconds + d.toNat := by
  have hor : reset? hs now = (resetRead? hs now <|>
      (count? hs "retry-after").bind fun d => now.add? d.toNat) := rfl
  rw [hor]
  cases resetRead? hs now with
  | some t => simp
  | none =>
    cases count? hs "retry-after" with
    | none => simp
    | some d => simpa using Instant.add?_eq_none_iff h d.toNat

/-- A delay that ends behind the calendar gives no time of restoration. -/
lemma waitsBeyond_iff (h : now.InCalendar) :
    WaitsBeyond hs now ↔ count? hs "x-ratelimit-limit" = none ∧
      count? hs "x-ratelimit-remaining" = none ∧ reset? hs now = none ∧
      count? hs "retry-after" ≠ none := by
  rw [reset?_eq_none_iff h, WaitsBeyond]
  constructor
  · rintro ⟨hlimit, hremaining, hread, d, hd, hbeyond⟩
    refine ⟨hlimit, hremaining, ⟨hread, fun d' hd' => ?_⟩, by simp [hd]⟩
    rw [hd] at hd'
    cases hd'
    exact hbeyond
  · rintro ⟨hlimit, hremaining, ⟨hread, hbeyond⟩, hne⟩
    obtain ⟨d, hd⟩ := Option.ne_none_iff_exists'.mp hne
    exact ⟨hlimit, hremaining, hread, d, hd, hbeyond d hd⟩

/-! ### The state -/

/-- The state as its cases. -/
lemma status_cases (status : ℕ) (hs : Http.Headers) (now : Instant) :
    let r := ofResponse status hs now
    ((status = 429 ∨ r.remaining = some 0) ∧ r.status = .overlimit) ∨
      (¬(status = 429 ∨ r.remaining = some 0) ∧
        (r.limit ≠ none ∨ r.remaining ≠ none ∨ r.resetAt ≠ none) ∧ r.status = .ok) ∨
      (¬(status = 429 ∨ r.remaining = some 0) ∧
        (r.limit = none ∧ r.remaining = none ∧ r.resetAt = none) ∧ r.status = .unknown) := by
  by_cases hover : status = 429 ∨ count? hs "x-ratelimit-remaining" = some 0
  · exact .inl ⟨hover, if_pos hover⟩
  · by_cases hany : ((count? hs "x-ratelimit-limit").isSome ||
        (count? hs "x-ratelimit-remaining").isSome || (reset? hs now).isSome) = true
    · refine .inr (.inl ⟨hover, ?_, (if_neg hover).trans (if_pos hany)⟩)
      simpa [or_assoc, Option.isSome_iff_ne_none, ofResponse] using hany
    · refine .inr (.inr ⟨hover, ?_, (if_neg hover).trans (if_neg hany)⟩)
      simpa [and_assoc, ofResponse] using hany

lemma status_eq_overlimit_iff :
    (ofResponse status hs now).status = .overlimit ↔
      status = 429 ∨ (ofResponse status hs now).remaining = some 0 := by
  rcases status_cases status hs now with ⟨hover, hq⟩ | ⟨hover, -, hq⟩ | ⟨hover, -, hq⟩
  all_goals simp [hq, hover]

section

variable (hq : (ofResponse status hs now).status ≠ .overlimit)

include hq

lemma status_eq_unknown_iff :
    (ofResponse status hs now).status = .unknown ↔ (ofResponse status hs now).limit = none ∧
      (ofResponse status hs now).remaining = none ∧ (ofResponse status hs now).resetAt = none := by
  rcases status_cases status hs now with ⟨-, ho⟩ | ⟨-, hany, hok⟩ | ⟨-, hnone, hu⟩
  · exact absurd ho hq
  · rw [hok]
    refine iff_of_false (by simp) ?_
    rintro ⟨hl, hr, ht⟩
    rcases hany with h | h | h
    exacts [h hl, h hr, h ht]
  · exact iff_of_true hu hnone

lemma status_eq_ok_iff :
    (ofResponse status hs now).status = .ok ↔ (ofResponse status hs now).limit ≠ none ∨
      (ofResponse status hs now).remaining ≠ none ∨
      (ofResponse status hs now).resetAt ≠ none := by
  have hu := status_eq_unknown_iff hq
  have hok : (ofResponse status hs now).status = .ok ↔
      ¬(ofResponse status hs now).status = .unknown := by
    cases hstatus : (ofResponse status hs now).status
    case overlimit => exact absurd hstatus hq
    all_goals simp
  rw [hok, hu, not_and_or, not_and_or]

/-- The unknown state means silence but for a delay that ends behind the calendar. -/
lemma unknown_iff_silent_iff (h : now.InCalendar) :
    ((ofResponse status hs now).status = .unknown ↔ (ofResponse status hs now).Silent) ↔
      ¬WaitsBeyond hs now := by
  rw [status_eq_unknown_iff hq, waitsBeyond_iff h, Silent]
  constructor
  · rintro hsilent ⟨hlimit, hremaining, hreset, hne⟩
    exact hne (hsilent.mp ⟨hlimit, hremaining, hreset⟩).2.2.2
  · intro hbeyond
    constructor
    · rintro ⟨hlimit, hremaining, hreset⟩
      refine ⟨hlimit, hremaining, hreset, ?_⟩
      by_contra hne
      exact hbeyond ⟨hlimit, hremaining, hreset, hne⟩
    · rintro ⟨hlimit, hremaining, hreset, -⟩
      exact ⟨hlimit, hremaining, hreset⟩

end

/-- **The state and the descriptor.** The quota is overrun just if the status is 429 or nothing is
left. Otherwise it is unknown just if neither the limit, nor what is left, nor the time of
restoration is there, and it is well just if one of them is. So the unknown state means that nothing
was reported, and the other that something was, but for one kind of answers: those that report only
a delay to wait, and one that ends behind the calendar. -/
theorem status_of_response (status : ℕ) (hs : Http.Headers) (h : now.InCalendar) :
    let r := ofResponse status hs now
    (r.isOverlimit = true ↔ status = 429 ∨ r.remaining = some 0) ∧
      (r.isOverlimit = false →
        (r.status = .unknown ↔ r.limit = none ∧ r.remaining = none ∧ r.resetAt = none) ∧
        (r.status = .ok ↔ r.limit ≠ none ∨ r.remaining ≠ none ∨ r.resetAt ≠ none) ∧
        ((r.status = .unknown ↔ r.Silent) ∧ (r.status = .ok ↔ ¬r.Silent) ↔
          ¬WaitsBeyond hs now)) := by
  intro r
  have hover : r.isOverlimit = true ↔ r.status = .overlimit := by simp [isOverlimit]
  refine ⟨hover.trans status_eq_overlimit_iff, fun hnot => ?_⟩
  have hq : r.status ≠ .overlimit := by
    intro ho
    rw [hover.mpr ho] at hnot
    cases hnot
  refine ⟨status_eq_unknown_iff hq, status_eq_ok_iff hq, ?_⟩
  have hok : r.status = .ok ↔ ¬r.status = .unknown := by
    rw [status_eq_ok_iff hq, status_eq_unknown_iff hq, not_and_or, not_and_or]
  rw [← unknown_iff_silent_iff hq h]
  exact ⟨fun hboth => hboth.1, fun hsilent => ⟨hsilent, hok.trans (not_congr hsilent)⟩⟩

/-- An answer within the quota that says when it is restored. -/
theorem status_of_response_ok :
    Instant.InCalendar ⟨1700000000, 0⟩ ∧
      (ofResponse 200 [("retry-after", "30")] ⟨1700000000, 0⟩).status = .ok ∧
      ¬(ofResponse 200 [("retry-after", "30")] ⟨1700000000, 0⟩).Silent := by
  have hin : Instant.InCalendar ⟨1700000000, 0⟩ := by decide
  have hnot : ¬WaitsBeyond [("retry-after", "30")] ⟨1700000000, 0⟩ := by
    rw [waitsBeyond_iff hin]
    decide +kernel
  have hok : (ofResponse 200 [("retry-after", "30")] ⟨1700000000, 0⟩).status = .ok := by
    decide +kernel
  obtain ⟨-, hrest⟩ := status_of_response 200 [("retry-after", "30")] hin
  obtain ⟨-, -, hsilent⟩ := hrest (by decide +kernel)
  exact ⟨hin, hok, (hsilent.mpr hnot).2.mp hok⟩

/-- The longest delay alone: the state is unknown, and yet the delay was reported. -/
theorem status_of_response_unknown :
    (ofResponse 200 [("retry-after", "18446744073709551615")] ⟨1700000000, 0⟩).isOverlimit =
        false ∧
      (ofResponse 200 [("retry-after", "18446744073709551615")] ⟨1700000000, 0⟩).status =
        .unknown ∧
      (ofResponse 200 [("retry-after", "18446744073709551615")] ⟨1700000000, 0⟩).retryAfter =
        some 18446744073709551615 := by
  decide +kernel

end RateLimit

end TeamSync
