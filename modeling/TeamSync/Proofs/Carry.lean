import Mathlib.Tactic.SplitIfs
import TeamSync.Graph.Annotation
import TeamSync.Proofs.Visit

/-!
The rate limit that a result carries. It comes from the answer to a visit, and whatever is done with
the result after that hands it on: the value of a call has it, and so has an error of the service,
also one that a mutation absorbs.
-/

namespace TeamSync

open Json

/-! ### The rate limit that a result carries -/

/-- The rate limit that an answer reports. -/
def Answer.rateLimit? (now : Instant) : Answer → Option RateLimit
  | .response status headers _ arrival =>
    some (.ofResponse status (.ofList headers) (arrival.instant now))
  | .failure _ => none

/-- The rate limit that is known from what came of a request. -/
def Client.limit? (c : Client) (a : Option Answer) : Option RateLimit :=
  a.bind (Answer.rateLimit? c.now)

/-- A value carries a rate limit that is known, in the sense of `P`, and so does an answer of the
service that is an error. -/
def Carries {α : Type} (P : α → RateLimit → Prop) (known : Option RateLimit) :
    Except Error α → Prop
  | .ok a => ∃ l, known = some l ∧ P a l
  | .error e => ∀ l, e.rateLimit? = some l → known = some l

/-- What is done with a result keeps the rate limit that it carries, and an error that has none
stays what it is. -/
structure Hands {α β : Type} (P : α → RateLimit → Prop) (Q : β → RateLimit → Prop)
    (f : Except Error α → Except Error β × List Event) : Prop where
  carries : ∀ known r, Carries P known r → Carries Q known (f r).1
  passes : ∀ e : Error, e.rateLimit? = none → (f (.error e)).1 = .error e

/-- The rate limit of an error is that of its root. -/
lemma Error.rateLimit?_of_root {e e' : Error} (h : e'.root = e.root) :
    e'.rateLimit? = e.rateLimit? := by
  rw [rateLimit?, rateLimit?, api?, api?, h]

section Carries

variable {α β : Type} {P : α → RateLimit → Prop} {Q : β → RateLimit → Prop}
  {known : Option RateLimit}

lemma carries_error {e : Error} (h : e.rateLimit? = none) :
    Carries P known (.error e) := by
  intro l hl
  rw [h] at hl
  cases hl

lemma hands_passing {f : α → Except Error β × List Event}
    (h : ∀ a l, P a l → Carries Q (some l) (f a).1) : Hands P Q (Step.passing f) where
  carries := by
    rintro known (e | a) hr
    · exact hr
    · obtain ⟨l, rfl, hl⟩ := hr
      exact h a l hl
  passes _ _ := rfl

lemma hands_map {f : α → β} (h : ∀ a l, P a l → Q (f a) l) :
    Hands P Q fun r => (r.map f, []) where
  carries := by
    rintro known (e | a) hr
    · exact hr
    · obtain ⟨l, rfl, hl⟩ := hr
      exact ⟨l, rfl, h a l hl⟩
  passes _ _ := rfl

end Carries

namespace Client

variable {α : Type} (c : Client) {op : Operation} {a : Option Answer}

/-- An answer that is no success carries the rate limit that it reports. -/
lemma Rejects.carries {c : Client} {P : α → RateLimit → Prop} {e : Error} (h : c.Rejects op a e) :
    Carries P (c.limit? a) (.error (.within op e)) := by
  cases h with
  | noAnswer => exact carries_error rfl
  | transport => exact carries_error rfl
  | status h =>
    rintro _ ⟨⟩
    rfl

lemma carries_read (d : Json.Decoder α) :
    Carries (fun v l => v.rateLimit = l) (c.limit? a) (c.read d op a) := by
  rcases c.success_or_rejects op a with ⟨status, headers, body, arrival, rfl, hs⟩ | ⟨e, he⟩
  · rw [read, c.receive_of_success op headers body arrival hs]
    rcases hd : d.decode body with f | v
    · simp only [hd]
      exact carries_error rfl
    · simp only [hd]
      exact ⟨_, rfl, rfl⟩
  · rw [read, receive_of_rejects he]
    exact he.carries

lemma carries_accept : Carries (fun v l => v = l) (c.limit? a) (c.accept op a) := by
  rcases c.success_or_rejects op a with ⟨status, headers, body, arrival, rfl, hs⟩ | ⟨e, he⟩
  · rw [accept, c.receive_of_success op headers body arrival hs]
    exact ⟨_, rfl, rfl⟩
  · rw [accept, receive_of_rejects he]
    exact he.carries

end Client

lemma Page.validated_cases {α : Type} (p : Page α) (l : Listing) :
    p.validated l = .ok p ∨ ∃ e, p.validated l = .error e ∧ e.rateLimit? = none := by
  by_cases h : p.Strays
  · exact .inr ⟨_, Page.validated_of_strays h l, rfl⟩
  · exact .inl (Page.validated_of_not_strays h l)

lemma Catalog.carries_read (d : Directory) (c : Catalog) (pt : PageToken) (a : Option Answer) :
    Carries (fun p l => p.rateLimit = l) (d.client.limit? a) (c.read d pt a) := by
  have h : Carries (fun v l => v.rateLimit = l) (d.client.limit? a)
      (d.client.read c.record.decoder (c.op pt) a) := d.client.carries_read c.record.decoder
  rw [Catalog.read]
  rcases hr : d.client.read c.record.decoder (c.op pt) a with e | v
  · rw [hr] at h
    exact h
  · rw [hr] at h
    obtain ⟨l, hl, hv⟩ := h
    have hb : (Except.ok v >>= fun r => (r.value.page r.rateLimit).validated c.listing) =
        (v.value.page v.rateLimit).validated c.listing := rfl
    rw [hb]
    rcases (v.value.page v.rateLimit).validated_cases c.listing with hp | ⟨e, he, hn⟩
    · rw [hp]
      exact ⟨l, hl, hv⟩
    · rw [he]
      exact carries_error hn

/-! ### What becomes of a mutation's result -/

/-- What a mutation makes of the result of its call, and what it logs. -/
def settling (kind : MutationKind) (allowed : AllowList) :
    Except Error RateLimit → Except Error MutationOutcome × List Event
  | .ok r => (.ok (.applied r), [])
  | .error e =>
    if allowed.absorbs kind e then
      (.ok (.absorbed e), [⟨.debug, "End state already in effect",
        [("kind", .text kind.name), ("tag", .text (describeTag e.serviceTag?))], []⟩])
    else (.error e, [])

lemma settle_eq_blind (kind : MutationKind) (allowed : AllowList) (r : Except Error RateLimit) :
    settle kind allowed r = Step.blind (settling kind allowed r).1 (settling kind allowed r).2 := by
  rcases r with e | l
  · simp only [settle, settling]
    split_ifs
    · rfl
    · exact Step.fail_eq_blind e
  · exact Step.pure_eq_blind _

/-- Only an answer of the service is absorbed. -/
lemma api?_of_absorbs {kind : MutationKind} {allowed : AllowList} {e : Error}
    (h : allowed.absorbs kind e) : ∃ api, e.api? = some api := by
  rcases he : e.api? with _ | api
  · simp [AllowList.absorbs, he] at h
  · exact ⟨api, rfl⟩

/-- What is made of an absorbed error reports the rate limit of the error. -/
lemma hands_settling (kind : MutationKind) (allowed : AllowList) :
    Hands (fun r l => r = l) (fun o l => o.rateLimit = l) (settling kind allowed) where
  carries := by
    rintro known (e | r) h
    · simp only [settling]
      split_ifs with ha
      · obtain ⟨api, hapi⟩ := api?_of_absorbs ha
        have hl : e.rateLimit? = some api.rateLimit := by simp [Error.rateLimit?, hapi]
        exact ⟨api.rateLimit, h _ hl, by simp [MutationOutcome.absorbed, hl]⟩
      · exact h
    · exact h
  passes e he := by
    simp only [settling]
    split_ifs with ha
    · obtain ⟨api, hapi⟩ := api?_of_absorbs ha
      simp [Error.rateLimit?, hapi] at he
    · rfl

/-! ### Single visits -/

/-- What follows a visit carries the rate limit that is known from it. Without a request none is
known, and then what went wrong with the token is what went wrong. -/
structure Client.Tells {α : Type} (c : Client) (P : α → RateLimit → Prop)
    (f : Except Error (Option Answer) → Except Error α × List Event) : Prop where
  answered : ∀ a, Carries P (c.limit? a) (f (.ok a)).1
  refused : ∀ e, e.rateLimit? = none → ∃ e', (f (.error e)).1 = .error e' ∧ e'.root = e.root

/-- A step that is one visit to an operation. -/
def Client.Visits {α : Type} (c : Client) (op : Operation) (body : Value)
    (P : α → RateLimit → Prop) (x : Step α) : Prop :=
  ∃ f, x = c.visit op body f ∧ c.Tells P f

namespace Client.Visits

variable {α β : Type} {c : Client} {op : Operation} {body : Value} {P : α → RateLimit → Prop}
  {Q : β → RateLimit → Prop} {x : Step α}

lemma of_roundTrip {outcome : Option Answer → Except Error α}
    (h : ∀ a, Carries P (c.limit? a) (outcome a)) (told : Option Answer → List Event) :
    c.Visits op body P (c.roundTrip op body outcome told) :=
  ⟨_, c.roundTrip_eq_visit op body outcome told, h, fun e _ => ⟨.within op e, rfl, rfl⟩⟩

lemma finish (hx : c.Visits op body P x) {g : Except Error α → Except Error β × List Event}
    (hg : Hands P Q g) : c.Visits op body Q (x.finish g) := by
  obtain ⟨f, rfl, hf⟩ := hx
  refine ⟨_, c.visit_finish op body f g, fun a => hg.carries _ _ (hf.answered a), fun e he => ?_⟩
  obtain ⟨e', hres, hroot⟩ := hf.refused e he
  have hnone : e'.rateLimit? = none := (Error.rateLimit?_of_root hroot).trans he
  exact ⟨e', by rw [hres, hg.passes e' hnone], hroot⟩

lemma map (hx : c.Visits op body P x) {f : α → β} (h : ∀ a l, P a l → Q (f a) l) :
    c.Visits op body Q (f <$> x) := by
  rw [Step.map_eq_finish]
  exact hx.finish (hands_map h)

lemma bind_blind (hx : c.Visits op body P x) {f : α → Step β}
    {g : α → Except Error β × List Event} (hf : ∀ a, f a = Step.blind (g a).1 (g a).2)
    (h : ∀ a l, P a l → Carries Q (some l) (g a).1) : c.Visits op body Q (x >>= f) := by
  rw [Step.bind_eq_finish x hf]
  exact hx.finish (hands_passing h)

lemma rescue_log (hx : c.Visits op body P x) (level : Level) (message : String)
    (fields : Error → List (String × LogField)) :
    c.Visits op body P (x.rescue fun e => do Step.log level message (fields e); Step.fail e) := by
  rw [Step.rescue_log_eq_finish]
  refine hx.finish ⟨?_, fun _ _ => rfl⟩
  rintro known (e | a) hr <;> exact hr

end Client.Visits

/-! ### The calls of a directory -/

/-- The body of an invitation. -/
def Directory.inviteBody (email : String) : Value :=
  .object [("new_members", .array [.object [("member_email", .string email)]])]

namespace Directory

variable (d : Directory)

lemma visits_mutate (kind : MutationKind) (op : Operation) (body : Value) :
    d.client.Visits op body (fun o l => o.rateLimit = l) (d.mutate kind op body) := by
  rw [mutate, Step.attempt_bind_eq_finish _ (settle_eq_blind kind d.allowed), Client.callDiscard_eq]
  exact (Client.Visits.of_roundTrip (fun _ => d.client.carries_accept) _).finish
    (hands_settling kind d.allowed)

lemma visits_invite (email : String) :
    d.client.Visits .addMember (inviteBody email) (fun a l => a.rateLimit = l)
      (d.invite email) := by
  rw [invite, Client.call_eq]
  exact .of_roundTrip (fun _ => d.client.carries_read _) _

lemma visits_remove (member : String) :
    d.client.Visits .removeMember (memberBody member) (fun a l => a.rateLimit = l)
      (d.remove member) := by
  rw [remove, Client.call_eq]
  refine (Client.Visits.of_roundTrip (fun _ => d.client.carries_read _) _).bind_blind
    (g := fun a => if a.value = "" then
      (.error (.response (.unexpected "empty response from remove member")), []) else (.ok a, []))
    (fun a => ?_) fun a l hl => ?_
  · split_ifs
    · exact Step.fail_eq_blind _
    · exact Step.pure_eq_blind _
  · split_ifs
    · exact carries_error rfl
    · exact ⟨l, rfl, hl⟩

end Directory

lemma Catalog.visits_fetch (d : Directory) (c : Catalog) (pt : PageToken) :
    d.client.Visits (c.op pt) (c.body d pt) (fun p l => p.rateLimit = l)
      ((c.pages d).fetch pt) := by
  rw [fetch_eq]
  exact .of_roundTrip (fun a => c.carries_read d pt a) _

end TeamSync
