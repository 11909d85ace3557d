import Mathlib.Data.List.ReduceOption
import Mathlib.Logic.Function.Iterate
import TeamSync.Proofs.Visit

/-!
Calls made one after the other. A call asks for one token and sends one request if that token can be
sent, whatever comes of it then. So the calls say how many tokens were asked for and which requests
went out.
-/

namespace TeamSync

/-- A call to the service that has a body. -/
structure Call where
  op : Operation
  body : Json.Value

namespace Client

variable (c : Client)

/-- The session after a call, whatever came of it. -/
def make (s : Session) (x : Call) : Session := (c.execute x.op (some x.body) s).2

/-- The session after some calls, made one after the other. -/
def makeAll (s : Session) (xs : List Call) : Session := xs.foldl c.make s

@[simp] lemma makeAll_nil (s : Session) : c.makeAll s [] = s := rfl

@[simp] lemma makeAll_cons (s : Session) (x : Call) (xs : List Call) :
    c.makeAll s (x :: xs) = c.makeAll (c.make s x) xs := rfl

/-- The request of a call for which a token was yielded, or none if that token cannot be sent. -/
def requestFor? (r : Except Error String) (x : Call) : Option Http.Request :=
  match sendable r with
  | .ok t => some (c.requestOf x.op t x.body)
  | .error _ => none

/-- The requests of some calls, of which each gets the token with its number. -/
def requestsFor (ts : ℕ → Except Error String) (xs : List Call) : List Http.Request :=
  (xs.mapIdx fun i x => c.requestFor? (ts i) x).reduceOption

@[simp] lemma requestsFor_nil (ts : ℕ → Except Error String) : c.requestsFor ts [] = [] := rfl

lemma requestsFor_cons (ts : ℕ → Except Error String) (x : Call) (xs : List Call) :
    c.requestsFor ts (x :: xs) =
      (c.requestFor? (ts 0) x).toList ++ c.requestsFor (fun i => ts (i + 1)) xs := by
  rw [requestsFor, List.mapIdx_cons]
  rcases c.requestFor? (ts 0) x with _ | r
  · rw [List.reduceOption_cons_of_none]
    rfl
  · rw [List.reduceOption_cons_of_some]
    rfl

variable {c} {s u : Session} {x : Call}

lemma requestFor?_of_ok {r : Except Error String} {t : String} (h : sendable r = .ok t) (x : Call) :
    c.requestFor? r x = some (c.requestOf x.op t x.body) := by
  simp only [requestFor?, h]

lemma requestFor?_of_error {r : Except Error String} {e : Error} (h : sendable r = .error e)
    (x : Call) : c.requestFor? r x = none := by
  simp only [requestFor?, h]

/-! ### What a call does to a session -/

/-- A visit does to a session what the call does, but for the log. -/
lemma visit_alike_make {α : Type} {op : Operation} {body : Json.Value}
    (f : Except Error (Option Answer) → Except Error α × List Event) (s : Session) :
    (c.visit op body f s).2.Alike (c.make s ⟨op, body⟩) := by
  rw [make, execute_eq_visit]
  rcases h : sendable (c.token s).1 with e | t
  · rw [visit_of_error h, visit_of_error h]
    exact ⟨rfl, rfl, rfl⟩
  · rw [visit_of_ok h, visit_of_ok h]
    exact ⟨rfl, rfl, rfl⟩

lemma make_transport (s : Session) (x : Call) :
    (c.make s x).transport = s.transport.after (c.requestFor? (c.token s).1 x).toList := by
  rw [make, execute_eq_visit]
  rcases h : sendable (c.token s).1 with e | t
  · rw [visit_of_error h, requestFor?_of_error h]
    simp [Transport.after]
  · rw [visit_of_ok h, requestFor?_of_ok h]
    simp [Session.spend_transport]

lemma make_source (s : Session) (x : Call) : (c.make s x).source = (c.token s).2.source := by
  rw [make, execute_eq_visit]
  rcases h : sendable (c.token s).1 with e | t
  · rw [visit_of_error h, Session.noting_source]
  · rw [visit_of_ok h, Session.spend_source]

lemma make_asked (s : Session) (x : Call) : (c.make s x).asked = (c.token s).2.asked := by
  rw [make, execute_eq_visit]
  rcases h : sendable (c.token s).1 with e | t
  · rw [visit_of_error h, Session.noting_asked]
  · rw [visit_of_ok h, Session.spend_asked]

/-- The log has no say in a call. -/
lemma make_alike (h : s.Alike u) (x : Call) : (c.make s x).Alike (c.make u x) := by
  obtain ⟨h1, h2⟩ := c.token_alike h
  refine ⟨?_, ?_, ?_⟩
  · rw [make_transport, make_transport, h1, h.transport]
  · rw [make_source, make_source, h2.source]
  · rw [make_asked, make_asked, h2.asked]

lemma makeAll_alike (h : s.Alike u) (xs : List Call) : (c.makeAll s xs).Alike (c.makeAll u xs) := by
  induction xs generalizing s u with
  | nil => exact h
  | cons x xs ih => exact ih (make_alike h x)

/-- After a call the tokens to come are those that were to come after the first. -/
lemma tokenAt_make (s : Session) (x : Call) (i : ℕ) :
    c.tokenAt (c.make s x) i = c.tokenAt s (i + 1) :=
  c.tokenAt_congr (make_source s x) i

/-! ### What some calls do to a session -/

/-- **The requests of some calls** are those for which the provider yields a token that can be
sent. -/
theorem makeAll_transport (s : Session) (xs : List Call) :
    (c.makeAll s xs).transport = s.transport.after (c.requestsFor (c.tokenAt s) xs) := by
  induction xs generalizing s with
  | nil => simp [Transport.after]
  | cons x xs ih =>
    have ht : c.tokenAt (c.make s x) = fun i => c.tokenAt s (i + 1) := funext (tokenAt_make s x)
    rw [makeAll_cons, ih, make_transport, Transport.after_after, requestsFor_cons, ht]
    rfl

lemma makeAll_held {cr : Credential} (h : c.tokens = .held cr) (s : Session) (xs : List Call) :
    (c.makeAll s xs).source = s.source ∧ (c.makeAll s xs).asked = s.asked := by
  induction xs generalizing s with
  | nil => exact ⟨rfl, rfl⟩
  | cons x xs ih =>
    have hs := make_source (c := c) s x
    have ha := make_asked (c := c) s x
    rw [token_held h] at hs ha
    rw [makeAll_cons, ← hs, ← ha]
    exact ih (c.make s x)

/-- **A source is asked once for each call**, and nothing that it yields is kept. -/
theorem makeAll_external {src : TokenSource} (h : c.tokens = .external) (hs : s.source = some src)
    (xs : List Call) :
    (c.makeAll s xs).source = some (TokenSource.advance^[xs.length] src) ∧
      (c.makeAll s xs).asked = s.asked + xs.length := by
  induction xs generalizing s src with
  | nil => exact ⟨hs, rfl⟩
  | cons x xs ih =>
    have ht : c.token s =
        (src.current, { s with source := some src.advance, asked := s.asked + 1 }) := by
      simp only [token_external h, Step.askSource, hs]
    have hsrc : (c.make s x).source = some src.advance := by rw [make_source, ht]
    have hask : (c.make s x).asked = s.asked + 1 := by rw [make_asked, ht]
    obtain ⟨h1, h2⟩ := ih hsrc
    refine ⟨by simpa using h1, ?_⟩
    rw [makeAll_cons, h2, hask, List.length_cons]
    omega

end Client

/-- What a source yields when it is asked for the time with some number. -/
def TokenSource.nth (src : TokenSource) (i : ℕ) : Except Error String := (advance^[i] src).current

lemma Client.tokenAt_held {c : Client} {cr : Credential} (h : c.tokens = .held cr) (s : Session)
    (i : ℕ) : c.tokenAt s i = .ok cr.token := by
  induction i generalizing s with
  | zero => rw [tokenAt, token_held h]
  | succ i ih => rw [tokenAt, ih]

lemma Client.tokenAt_external {c : Client} {s : Session} {src : TokenSource}
    (h : c.tokens = .external) (hs : s.source = some src) (i : ℕ) :
    c.tokenAt s i = src.nth i := by
  induction i generalizing s src with
  | zero =>
    simp only [tokenAt, token_external h, Step.askSource, hs]
    rfl
  | succ i ih =>
    simp only [tokenAt, token_external h, Step.askSource, hs]
    exact ih rfl

end TeamSync
