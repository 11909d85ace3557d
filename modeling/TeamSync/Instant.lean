import TeamSync.Text.Numeral

/-!
Instants of the proleptic Gregorian calendar in UTC, from the year -262143 to the year 262142.
-/

namespace TeamSync

/-- A count of seconds since 1970 and of the nanoseconds that follow. A leap second counts as part
of the second before it, whose nanoseconds then go up to two thousand million. -/
structure Instant where
  seconds : Int
  nanos : Nat
  deriving DecidableEq, Repr

namespace Instant

/-- The first and the last second of the calendar. -/
def firstSecond : Int := -8334601228800
def lastSecond : Int := 8210266876799

/-- Whether an instant lies in a leap second. -/
def inLeapSecond (t : Instant) : Bool := 1000000000 ≤ t.nanos

/-- The instants the calendar has; a leap second follows only the last second of a minute. -/
def InCalendar (t : Instant) : Prop :=
  firstSecond ≤ t.seconds ∧ t.seconds ≤ lastSecond ∧
    (t.nanos < 1000000000 ∨ (t.nanos < 2000000000 ∧ t.seconds % 60 = 59))

instance (t : Instant) : Decidable t.InCalendar :=
  inferInstanceAs (Decidable (_ ∧ _ ∧ _))

/-- The instant with a count of seconds and the nanoseconds of another, if the calendar has it. -/
def at? (seconds : Int) (nanos : Nat) : Option Instant :=
  if firstSecond ≤ seconds ∧ seconds ≤ lastSecond then some ⟨seconds, nanos⟩ else none

/-- The instant of a whole second. -/
def ofEpoch? (seconds : Int) : Option Instant := at? seconds 0

/-- The instant some seconds later. From within a leap second the count leaves it: going forward it
has been passed, going back the second after it has. -/
def add? (t : Instant) (seconds : Int) : Option Instant :=
  if t.inLeapSecond ∧ seconds ≠ 0 then
    at? (t.seconds + seconds + (if seconds < 0 then 1 else 0)) (t.nanos - 1000000000)
  else at? (t.seconds + seconds) t.nanos

/-- Whether an instant lies before another. -/
def before (s t : Instant) : Bool :=
  s.seconds < t.seconds || (s.seconds == t.seconds && s.nanos < t.nanos)

/-! ### Text -/

/-- The civil date of a day counted from 1970-01-01. A year begins in March here, so that the leap
day is its last; four hundred years have 146097 days. -/
def civilDate (day : Int) : Int × Nat × Nat :=
  let z := day + 719468
  let era := z / 146097
  let dayOfEra := (z % 146097).toNat
  let yearOfEra := (dayOfEra - dayOfEra / 1460 + dayOfEra / 36524 - dayOfEra / 146096) / 365
  let dayOfYear := dayOfEra - (365 * yearOfEra + yearOfEra / 4 - yearOfEra / 100)
  let m := (5 * dayOfYear + 2) / 153
  let month := if m < 10 then m + 3 else m - 9
  let year := era * 400 + yearOfEra + (if month ≤ 2 then 1 else 0)
  (year, month, dayOfYear - (153 * m + 2) / 5 + 1)

/-- A year of four digits, with a sign if it has more or is negative. -/
def yearText (year : Int) : List Char :=
  if 0 ≤ year ∧ year ≤ 9999 then Numeral.padded 4 year.toNat
  else (if year < 0 then '-' else '+') :: Numeral.padded 4 year.natAbs

/-- The fraction of a second in three, six or nine digits, as few as show it all. -/
def fractionText (nanos : Nat) : List Char :=
  if nanos = 0 then []
  else if nanos % 1000000 = 0 then '.' :: Numeral.padded 3 (nanos / 1000000)
  else if nanos % 1000 = 0 then '.' :: Numeral.padded 6 (nanos / 1000)
  else '.' :: Numeral.padded 9 nanos

/-- The text of an instant, as in `2024-02-29T12:34:56Z`; a leap second is the sixtieth. -/
def text (t : Instant) : String :=
  let (year, month, day) := civilDate (t.seconds / 86400)
  let s := (t.seconds % 86400).toNat
  let leap := if t.inLeapSecond then 1 else 0
  String.ofList (yearText year ++ '-' :: Numeral.padded 2 month ++ '-' :: Numeral.padded 2 day ++
    'T' :: Numeral.padded 2 (s / 3600) ++ ':' :: Numeral.padded 2 (s / 60 % 60) ++
    ':' :: Numeral.padded 2 (s % 60 + leap) ++ fractionText (t.nanos - 1000000000 * leap) ++ ['Z'])

end Instant

/-- When an answer arrives: at an instant of the calendar, or as the clock of its reader stands. -/
abbrev Arrival := Option { t : Instant // t.InCalendar }

namespace Arrival

/-- The instant of an arrival for a reader whose clock stands at `now`. -/
def instant (a : Arrival) (now : Instant) : Instant := a.elim now Subtype.val

@[simp] theorem instant_none (now : Instant) : instant none now = now := rfl

theorem inCalendar_instant {now : Instant} (h : now.InCalendar) (a : Arrival) :
    (a.instant now).InCalendar := by
  rcases a with _ | ⟨t, ht⟩
  · exact h
  · exact ht

end Arrival

end TeamSync
