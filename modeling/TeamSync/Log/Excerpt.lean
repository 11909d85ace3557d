import TeamSync.Text.Numeral
import TeamSync.Text.Utf8

/-!
What a log shows of secrets and of long bodies.
-/

namespace TeamSync.Log

/-- What stands for the part of a secret that is not shown. -/
def redactedMark : String := "[REDACTED]"

/-- A token as it is logged: the first eight characters if there are more of them and the whole
takes more than twelve bytes, and nothing otherwise. -/
def redact (token : String) : String :=
  if 8 < token.toList.length ∧ 12 < (Utf8.ofString token).length then
    String.ofList (token.toList.take 8) ++ "..." ++ redactedMark
  else redactedMark

/-- The bytes of a body that are logged. -/
def bodyLimit : Nat := 4096

/-- A body as it is logged: at most the first `bodyLimit` bytes, and a count of the rest. -/
def excerpt (body : List UInt8) : String :=
  if body.length ≤ bodyLimit then Utf8.toStringLossy body
  else Utf8.toStringLossy (body.take bodyLimit) ++
    "...[" ++ toString (body.length - bodyLimit) ++ " bytes truncated]"

end TeamSync.Log
