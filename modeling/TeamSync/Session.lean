import TeamSync.Credential
import TeamSync.Log.Event
import TeamSync.Transport

/-!
The state of a session and the steps it takes.

A step sees the session, may move it on, and answers or fails; what it did to the session stays
done when it fails.
-/

namespace TeamSync

/-- The transport, the source of tokens and how often it was asked, and the log. -/
structure Session where
  transport : Transport
  source : Option TokenSource
  asked : Nat
  log : List Event

namespace Session

def start (t : Transport) : Session := ⟨t, none, 0, []⟩

/-- How many more calls may get an answer or a token that no call got before. -/
def supply (s : Session) : Nat :=
  s.transport.queue.length + (s.source.elim 0 fun t => t.later.length)

end Session

def Step (α : Type) := Session → Except Error α × Session

namespace Step

variable {α β : Type}

def run (x : Step α) (s : Session) : Except Error α × Session := x s

def done (a : α) : Step α := fun s => (.ok a, s)

def fail (e : Error) : Step α := fun s => (.error e, s)

def andThen (x : Step α) (f : α → Step β) : Step β := fun s =>
  match x s with
  | (.ok a, s) => f a s
  | (.error e, s) => (.error e, s)

instance : Monad Step where
  pure := done
  bind := andThen

def ofExcept : Except Error α → Step α
  | .ok a => done a
  | .error e => fail e

/-- Goes on with a failure as `f` says. -/
def rescue (x : Step α) (f : Error → Step α) : Step α := fun s =>
  match x s with
  | (.ok a, s) => (.ok a, s)
  | (.error e, s) => f e s

/-- Names the operation a failure passes through. -/
def within (op : Operation) (x : Step α) : Step α := x.rescue fun e => fail (.within op e)

/-- Takes the result of a step, whatever it is. -/
def attempt (x : Step α) : Step (Except Error α) := fun s =>
  match x s with
  | (r, s) => (.ok r, s)

def log (level : Level) (message : String) (fields : List (String × LogField))
    (times : List (String × Option Instant) := []) : Step Unit :=
  fun s => (.ok (), { s with log := s.log ++ [⟨level, message, fields, times⟩] })

/-- Sends a request. -/
def send (r : Http.Request) : Step Http.Response := fun s =>
  match s.transport.send r with
  | (answer, t) => (answer, { s with transport := t })

/-- Takes the source of tokens for the rest of the session. -/
def useSource (t : TokenSource) : Step Unit := fun s => (.ok (), { s with source := some t })

/-- Asks the source for a token. -/
def askSource : Step String := fun s =>
  match s.source with
  | some t => (t.current, { s with source := some t.advance, asked := s.asked + 1 })
  | none => (.error (.configuration .missingCredential), s)

end Step

end TeamSync
