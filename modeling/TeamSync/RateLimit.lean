import TeamSync.Http.Message
import TeamSync.Instant
import TeamSync.Text.Blank

/-!
The rate limit reported with an answer: the quota, what is left of it, when it is restored and how
long to wait.
-/

namespace TeamSync

/-- Whether calls may go on. -/
inductive QuotaStatus where
  | unknown
  | ok
  | overlimit
  deriving DecidableEq, Repr

/-- What an answer says about the quota of calls. -/
structure RateLimit where
  status : QuotaStatus
  limit : Option UInt64
  remaining : Option UInt64
  resetAt : Option Instant
  retryAfter : Option UInt64
  deriving DecidableEq, Repr

namespace RateLimit

/-- Nothing reported. -/
def unreported : RateLimit := ⟨.unknown, none, none, none, none⟩

/-- A reset value from here on is a date, below it a delay in seconds. -/
def firstDate : Int := 1000000000

/-- Reads an unsigned number from a header, blanks around it allowed. -/
def count? (hs : Http.Headers) (name : String) : Option UInt64 :=
  (hs.text? name).bind fun v => Numeral.uint64? (Text.trim v)

/-- What a reset value says: a delay from now, or a date. -/
def resetOf? (now : Instant) (r : Int) : Option Instant :=
  if r < 0 then none else if r < firstDate then now.add? r else Instant.ofEpoch? r

/-- When the quota is restored: as the reset header says, else after the delay to wait. -/
def reset? (hs : Http.Headers) (now : Instant) : Option Instant :=
  let reset := ((hs.text? "x-ratelimit-reset").bind fun v => Numeral.int64? (Text.trim v)).bind
    (resetOf? now)
  reset <|> (count? hs "retry-after").bind fun d => now.add? d.toNat

/-- The rate limit of an answer that arrives now. -/
def ofResponse (status : Nat) (hs : Http.Headers) (now : Instant) : RateLimit :=
  let limit := count? hs "x-ratelimit-limit"
  let remaining := count? hs "x-ratelimit-remaining"
  let resetAt := reset? hs now
  let quota : QuotaStatus :=
    if status = 429 ∨ remaining = some 0 then .overlimit
    else if limit.isSome || remaining.isSome || resetAt.isSome then .ok
    else .unknown
  ⟨quota, limit, remaining, resetAt, count? hs "retry-after"⟩

def isOverlimit (r : RateLimit) : Bool := r.status = .overlimit

end RateLimit

end TeamSync
