import TeamSync.Instant

/-!
Log events: what is told to an operator while an operation runs.
-/

namespace TeamSync

/-- How much an event matters. -/
inductive Level where
  | debug
  | info
  | warn
  deriving DecidableEq, Repr

/-- What a field of an event holds. -/
inductive LogField where
  | text (s : String)
  | count (n : Nat)
  deriving DecidableEq, Repr

/-- One entry of the log. The fields that hold an instant, or none, are kept apart from the
others. -/
structure Event where
  level : Level
  message : String
  fields : List (String × LogField)
  times : List (String × Option Instant)
  deriving DecidableEq, Repr

end TeamSync
