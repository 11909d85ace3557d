import Mathlib.Data.Nat.Notation
import Mathlib.Tactic.Lemma
import TeamSync.Session

/-!
What each way of building a step does to a session, as equations. A proof about a step opens it
with these and never with the definitions.
-/

namespace TeamSync

namespace Session

/-- The session with more in its log. -/
def noting (s : Session) (es : List Event) : Session := { s with log := s.log ++ es }

@[simp] lemma noting_nil (s : Session) : s.noting [] = s := by simp [noting]

@[simp] lemma noting_noting (s : Session) (es fs : List Event) :
    (s.noting es).noting fs = s.noting (es ++ fs) := by
  simp [noting]

@[simp] lemma noting_transport (s : Session) (es : List Event) :
    (s.noting es).transport = s.transport := rfl
@[simp] lemma noting_source (s : Session) (es : List Event) :
    (s.noting es).source = s.source := rfl
@[simp] lemma noting_asked (s : Session) (es : List Event) :
    (s.noting es).asked = s.asked := rfl
@[simp] lemma noting_log (s : Session) (es : List Event) :
    (s.noting es).log = s.log ++ es := rfl

/-- The session after a request that has its answer, with what that put into the log. -/
def spend (s : Session) (r : Http.Request) (es : List Event) : Session :=
  { s with transport := (s.transport.send r).2, log := s.log ++ es }

lemma noting_spend (s : Session) (r : Http.Request) (es fs : List Event) :
    (s.spend r es).noting fs = s.spend r (es ++ fs) := by
  simp [noting, spend]

@[simp] lemma spend_queue (s : Session) (r : Http.Request) (es : List Event) :
    (s.spend r es).transport.queue = s.transport.queue.tail := rfl
@[simp] lemma spend_standing (s : Session) (r : Http.Request) (es : List Event) :
    (s.spend r es).transport.standing = s.transport.standing := rfl
@[simp] lemma spend_sent (s : Session) (r : Http.Request) (es : List Event) :
    (s.spend r es).transport.sent = s.transport.sent ++ [r] := rfl
@[simp] lemma spend_source (s : Session) (r : Http.Request) (es : List Event) :
    (s.spend r es).source = s.source := rfl
@[simp] lemma spend_asked (s : Session) (r : Http.Request) (es : List Event) :
    (s.spend r es).asked = s.asked := rfl

/-- Two sessions that differ at most in their logs. -/
structure Alike (s u : Session) : Prop where
  transport : s.transport = u.transport
  source : s.source = u.source
  asked : s.asked = u.asked

namespace Alike

@[refl] lemma refl (s : Session) : s.Alike s := ⟨rfl, rfl, rfl⟩

lemma trans {s u v : Session} (h : s.Alike u) (h' : u.Alike v) : s.Alike v :=
  ⟨h.transport.trans h'.transport, h.source.trans h'.source, h.asked.trans h'.asked⟩

lemma noting_right {s u : Session} (h : s.Alike u) (es : List Event) : s.Alike (u.noting es) :=
  ⟨h.transport, h.source, h.asked⟩

lemma spend {s u : Session} (h : s.Alike u) (r : Http.Request) (es fs : List Event) :
    (s.spend r es).Alike (u.spend r fs) :=
  ⟨by simp [Session.spend, h.transport], h.source, h.asked⟩

end Alike

end Session

namespace Step

variable {α β : Type}

lemma bind_apply (x : Step α) (f : α → Step β) (s : Session) :
    (x >>= f) s =
      match x s with
      | (.ok a, s) => f a s
      | (.error e, s) => (.error e, s) := rfl

lemma bind_of_ok {x : Step α} {s t : Session} {a : α} (h : x s = (.ok a, t)) (f : α → Step β) :
    (x >>= f) s = f a t := by
  rw [bind_apply, h]

lemma bind_of_error {x : Step α} {s t : Session} {e : Error} (h : x s = (.error e, t))
    (f : α → Step β) : (x >>= f) s = (.error e, t) := by
  rw [bind_apply, h]

/-- A step whose result is only put into another form. -/
lemma map_apply (x : Step α) (f : α → β) (s : Session) :
    (f <$> x) s = ((x s).1.map f, (x s).2) := by
  rcases h : x s with ⟨_ | _, _⟩
  · exact bind_of_error h _
  · exact bind_of_ok h _

@[simp] lemma pure_apply (a : α) (s : Session) : (pure a : Step α) s = (.ok a, s) := rfl

@[simp] lemma fail_apply (e : Error) (s : Session) : (fail e : Step α) s = (.error e, s) := rfl

@[simp] lemma ofExcept_apply (r : Except Error α) (s : Session) : ofExcept r s = (r, s) := by
  cases r <;> rfl

@[simp] lemma ofExcept_ok (a : α) : ofExcept (.ok a) = (pure a : Step α) := rfl

@[simp] lemma attempt_apply (x : Step α) (s : Session) :
    x.attempt s = (.ok (x s).1, (x s).2) := rfl

lemma andThen_done (x : Step α) : x.andThen done = x := by
  funext s
  simp only [andThen]
  rcases x s with ⟨_ | _, _⟩ <;> rfl

lemma andThen_assoc {γ : Type} (x : Step α) (f : α → Step β) (g : β → Step γ) :
    (x.andThen f).andThen g = x.andThen fun a => (f a).andThen g := by
  funext s
  simp only [andThen]
  rcases x s with ⟨_ | _, _⟩ <;> rfl

instance : LawfulMonad Step := .mk' Step andThen_done (fun _ _ => rfl) andThen_assoc

@[simp] lemma mapError_ok {ε ε' : Type} (f : ε → ε') (a : α) :
    (Except.ok a).mapError f = .ok a := rfl

@[simp] lemma mapError_error {ε ε' : Type} (f : ε → ε') (e : ε) :
    (Except.error e : Except ε α).mapError f = .error (f e) := rfl

lemma within_apply (op : Operation) (x : Step α) (s : Session) :
    within op x s = ((x s).1.mapError (.within op), (x s).2) := by
  rcases h : x s with ⟨_ | _, _⟩ <;> simp [within, rescue, h]

@[simp] lemma log_apply (level : Level) (message : String) (fields : List (String × LogField))
    (times : List (String × Option Instant)) (s : Session) :
    log level message fields times s = (.ok (), s.noting [⟨level, message, fields, times⟩]) := rfl

lemma forM_log_apply {γ : Type} (level : Level) (message : String)
    (fields : γ → List (String × LogField)) (as : List γ) (s : Session) :
    (as.forM fun a => log level message (fields a)) s =
      (.ok (), s.noting (as.map fun a => ⟨level, message, fields a, []⟩)) := by
  induction as generalizing s with
  | nil => simp
  | cons a as ih =>
    refine (bind_of_ok (log_apply ..) _).trans ?_
    simp [ih]

lemma send_apply (r : Http.Request) (s : Session) :
    send r s = ((s.transport.send r).1, s.spend r []) := by
  simp [send, Session.spend]

/-- A failure is reported and goes on as it was. -/
lemma rescue_log_apply (x : Step α) (level : Level) (message : String)
    (fields : Error → List (String × LogField)) (s : Session) :
    (x.rescue fun e => do log level message (fields e); fail e) s =
      match x s with
      | (.ok a, s) => (.ok a, s)
      | (.error e, s) => (.error e, s.noting [⟨level, message, fields e, []⟩]) := rfl

end Step

end TeamSync
