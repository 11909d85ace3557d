import TeamSync.Proofs.Catalog

/-!
Visits to the service. A visit asks for one token, sends at most one request, and goes on by a
function of what came of that. What a step does after its last visit, it does without looking at
the session, so it can be taken into that function.
-/

namespace TeamSync

namespace Step

variable {α β : Type}

/-- A step that does not look at the session and only adds to its log. -/
def blind (r : Except Error α) (es : List Event) : Step α := fun s => (r, s.noting es)

/-- Goes on from the result of a step, whatever it is, without looking at the session. -/
def finish (x : Step α) (f : Except Error α → Except Error β × List Event) : Step β := fun s =>
  ((f (x s).1).1, (x s).2.noting (f (x s).1).2)

lemma pure_eq_blind (a : α) : (pure a : Step α) = blind (.ok a) [] := by
  funext s
  simp [blind]

lemma fail_eq_blind (e : Error) : (fail e : Step α) = blind (.error e) [] := by
  funext s
  simp [blind]

lemma ofExcept_eq_blind (r : Except Error α) : ofExcept r = blind r [] := by
  funext s
  simp [blind]

lemma blind_error_bind (e : Error) (es : List Event) (f : α → Step β) :
    blind (.error e) es >>= f = blind (.error e) es := rfl

lemma map_blind (r : Except Error α) (es : List Event) (f : α → β) :
    f <$> blind r es = blind (r.map f) es := by
  funext s
  rw [map_apply]
  rfl

/-- What goes on from a value goes on from a result; a failure stays what it is. -/
def passing (f : α → Except Error β × List Event) : Except Error α → Except Error β × List Event
  | .ok a => f a
  | .error e => (.error e, [])

lemma bind_eq_finish (x : Step α) {f : α → Step β} {g : α → Except Error β × List Event}
    (h : ∀ a, f a = blind (g a).1 (g a).2) : x >>= f = x.finish (passing g) := by
  funext s
  rw [bind_apply, finish]
  rcases x s with ⟨e | a, t⟩
  · simp [passing]
  · simp [passing, h, blind]

lemma map_eq_finish (x : Step α) (f : α → β) :
    f <$> x = x.finish fun r => (r.map f, []) := by
  funext s
  simp [map_apply, finish]

lemma attempt_bind_eq_finish (x : Step α) {f : Except Error α → Step β}
    {g : Except Error α → Except Error β × List Event} (h : ∀ r, f r = blind (g r).1 (g r).2) :
    x.attempt >>= f = x.finish g := by
  funext s
  rw [bind_of_ok (attempt_apply x s), h]
  rfl

lemma rescue_log_eq_finish (x : Step α) (level : Level) (message : String)
    (fields : Error → List (String × LogField)) :
    (x.rescue fun e => do log level message (fields e); fail e) =
      x.finish fun
        | .ok a => (.ok a, [])
        | .error e => (.error e, [⟨level, message, fields e, []⟩]) := by
  funext s
  rw [rescue_log_apply, finish]
  rcases x s with ⟨e | a, t⟩ <;> simp

end Step

/-! ### Visits -/

/-- A token that was yielded, if it can be sent. -/
def sendable (r : Except Error String) : Except Error String :=
  match r with
  | .ok t => if Http.isHeaderValue (bearer t) then .ok t
    else .error (.authentication .invalidHeaderValue)
  | .error e => .error e

lemma sendable_of_legal {t : String} (h : Http.isHeaderValue (bearer t)) :
    sendable (.ok t) = .ok t := by
  simp [sendable, h]

lemma sendable_of_illegal {t : String} (h : Http.isHeaderValue (bearer t) = false) :
    sendable (.ok t) = .error (.authentication .invalidHeaderValue) := by
  simp [sendable, h]

lemma sendable_eq_ok {r : Except Error String} {t : String} :
    sendable r = .ok t ↔ r = .ok t ∧ Http.isHeaderValue (bearer t) := by
  rcases r with e | u
  · simp [sendable]
  · rcases h : Http.isHeaderValue (bearer u) with _ | _
    · rw [sendable_of_illegal h]
      refine ⟨nofun, ?_⟩
      rintro ⟨⟨⟩, h'⟩
      rw [h] at h'
      cases h'
    · rw [sendable_of_legal h]
      refine ⟨?_, And.left⟩
      rintro ⟨⟩
      exact ⟨rfl, h⟩

lemma sendable_eq_error {r : Except Error String} {e : Error} (h : sendable r = .error e) :
    r = .error e ∨ e = .authentication .invalidHeaderValue := by
  rcases r with e' | t
  · exact .inl h
  · rcases hl : Http.isHeaderValue (bearer t) with _ | _
    · rw [sendable_of_illegal hl] at h
      cases h
      exact .inr rfl
    · rw [sendable_of_legal hl] at h
      cases h

namespace Client

variable {α β : Type} (c : Client) (op : Operation) (body : Json.Value)

/-- One visit to an operation: a token is asked for, and if it can be sent a request goes out with
it. What comes of the visit, the answer or why no request went out, decides the rest. -/
def visit (f : Except Error (Option Answer) → Except Error α × List Event) : Step α := fun s =>
  match sendable (c.token s).1 with
  | .error e => ((f (.error e)).1, (c.token s).2.noting (f (.error e)).2)
  | .ok t =>
    ((f (.ok s.transport.next?)).1,
      (c.token s).2.spend (c.requestOf op t body) (f (.ok s.transport.next?)).2)

variable {c op body}

lemma visit_of_error {f : Except Error (Option Answer) → Except Error α × List Event} {s : Session}
    {e : Error} (h : sendable (c.token s).1 = .error e) :
    c.visit op body f s = ((f (.error e)).1, (c.token s).2.noting (f (.error e)).2) := by
  simp only [visit, h]

lemma visit_of_ok {f : Except Error (Option Answer) → Except Error α × List Event} {s : Session}
    {t : String} (h : sendable (c.token s).1 = .ok t) :
    c.visit op body f s =
      ((f (.ok s.transport.next?)).1,
        (c.token s).2.spend (c.requestOf op t body) (f (.ok s.transport.next?)).2) := by
  simp only [visit, h]

variable (c op body)

/-- What comes of a round trip: without a request it fails in its operation. -/
def reading (outcome : Option Answer → Except Error α) (told : Option Answer → List Event) :
    Except Error (Option Answer) → Except Error α × List Event
  | .ok a => (outcome a, told a)
  | .error e => (.error (.within op e), [])

/-- **A round trip is a visit.** -/
theorem roundTrip_eq_visit (outcome : Option Answer → Except Error α)
    (told : Option Answer → List Event) :
    c.roundTrip op body outcome told = c.visit op body (reading op outcome told) := by
  funext s
  have htr := c.token_transport s
  rcases ht : c.token s with ⟨e | t, s₁⟩ <;> rw [ht] at htr
  · rw [roundTrip_apply_error c op body _ _ ht, visit_of_error (by rw [ht]; rfl), ht]
    simp [reading]
  rcases hl : Http.isHeaderValue (bearer t) with _ | _
  · rw [roundTrip_apply_illegal c op body _ _ ht hl,
      visit_of_error (by rw [ht]; exact sendable_of_illegal hl), ht]
    simp [reading]
  · rw [roundTrip_apply c op body _ _ ht hl,
      visit_of_ok (by rw [ht]; exact sendable_of_legal hl), ht, htr]
    rfl

/-- The answer to a call whatever its body is a visit that fails outside of any operation. -/
theorem execute_eq_visit :
    c.execute op (some body) = c.visit op body fun
      | .ok a => (c.receive op a, receiveLog op a)
      | .error e => (.error e, []) := by
  funext s
  have htr := c.token_transport s
  rcases ht : c.token s with ⟨e | t, s₁⟩ <;> rw [ht] at htr
  · rw [execute_apply_error c op body ht, visit_of_error (by rw [ht]; rfl), ht]
    simp
  rcases hl : Http.isHeaderValue (bearer t) with _ | _
  · rw [execute_apply_illegal c op body ht hl,
      visit_of_error (by rw [ht]; exact sendable_of_illegal hl), ht]
    simp
  · rw [execute_apply c op body ht hl, visit_of_ok (by rw [ht]; exact sendable_of_legal hl), ht,
      htr]

/-- What is done after a visit is done by the visit. -/
lemma visit_finish (f : Except Error (Option Answer) → Except Error α × List Event)
    (g : Except Error α → Except Error β × List Event) :
    (c.visit op body f).finish g =
      c.visit op body fun a => ((g (f a).1).1, (f a).2 ++ (g (f a).1).2) := by
  funext s
  rw [Step.finish]
  rcases ht : sendable (c.token s).1 with e | t
  · simp only [visit_of_error ht, Session.noting_noting]
  · simp only [visit_of_ok ht, Session.noting_spend]

end Client

end TeamSync
