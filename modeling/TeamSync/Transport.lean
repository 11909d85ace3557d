import TeamSync.Error

/-!
A transport that answers from a queue.

Each request takes the oldest answer of the queue, or the standing answer if the queue is empty.
Every request is recorded, also one that fails.
-/

namespace TeamSync

/-- An answer that is waiting to be given. -/
inductive Answer where
  | response (status : Nat) (headers : List (String × String)) (body : List UInt8)
      (arrival : Arrival := none)
  | failure (cause : NetworkError)
  deriving DecidableEq, Repr

/-- What a caller of the transport gets for an answer. -/
def Answer.result : Answer → Except Error Http.Response
  | .response status headers body arrival =>
    .ok ⟨status, Http.Headers.ofList headers, body, arrival⟩
  | .failure cause => .error (.network cause)

/-- Answers in a queue, the answer that stands once the queue is empty, and the requests so far. -/
structure Transport where
  queue : List Answer
  standing : Option Answer
  sent : List Http.Request
  deriving DecidableEq, Repr

namespace Transport

def empty : Transport := ⟨[], none, []⟩

/-- Puts answers at the end of the queue. -/
def enqueue (t : Transport) (as : List Answer) : Transport := { t with queue := t.queue ++ as }

def setStanding (t : Transport) (a : Answer) : Transport := { t with standing := some a }

/-- The next answer, if there is one. -/
def next? (t : Transport) : Option Answer := t.queue.head? <|> t.standing

/-- Records a request and gives it the next answer. -/
def send (t : Transport) (r : Http.Request) : Except Error Http.Response × Transport :=
  (match t.next? with
    | some a => a.result
    | none => .error (.network (.connectionFailed ("no mock response queued for " ++ r.url))),
    { t with queue := t.queue.tail, sent := t.sent ++ [r] })

end Transport

end TeamSync
