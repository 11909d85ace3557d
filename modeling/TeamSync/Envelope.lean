import TeamSync.Error
import TeamSync.Json.Record

/-!
The body of an answer that reports an error: a summary for people and a tag for programs, either of
which may be missing.
-/

namespace TeamSync

open Json

/-- The wire form of a tag: an object with the one member `.tag`, which defaults to nothing. -/
def tagRecord (name : String) : Record String :=
  ⟨"struct " ++ name, "", [.defaulted ".tag" Decoder.string fun t _ => t]⟩

/-- What an answer outside the 2xx range says of its error. -/
structure Envelope where
  summary : String
  tag : Option String
  deriving DecidableEq, Repr

namespace Envelope

def record : Record Envelope :=
  ⟨"struct ErrorEnvelope", ⟨"", none⟩,
    [.defaulted "error_summary" Decoder.string fun s e => { e with summary := s },
      .defaulted "error" (Decoder.nullable (tagRecord "ErrorTag").decoder)
        fun t e => { e with tag := t }]⟩

def parse? (body : List UInt8) : Option Envelope := (record.decoder.decode body).toOption

/-- The tag, unless it is empty. -/
def tag? (e : Envelope) : Option String := e.tag.filter (· ≠ "")

/-- The summary, unless it is empty. -/
def summary? (e : Envelope) : Option String := some e.summary |>.filter (· ≠ "")

/-- The summary, else the tag. -/
def text (e : Envelope) : String := (e.summary? <|> e.tag?).getD ApiError.unknownMessage

end Envelope

/-- The error of an answer with some status; a body that is no envelope says nothing. -/
def ApiError.ofEnvelope (status : Nat) (e : Option Envelope) (r : RateLimit) : ApiError :=
  ⟨status, e.bind (·.tag?), e.bind (·.summary?), r⟩

end TeamSync
