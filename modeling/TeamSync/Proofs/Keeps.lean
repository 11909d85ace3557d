import Mathlib.Tactic.SplitIfs
import TeamSync.Proofs.Drain
import TeamSync.Proofs.Visit

/-!
What the calls to the service keep. A property of sessions that survives a token being asked for
and a request being sent survives every call, every page and every drain; the errors that these
fail with are followed beside it.
-/

namespace TeamSync

namespace Error

/-- What went wrong is an argument. -/
def IsArgument (e : Error) : Prop := ∃ cause, e.root = .argument cause

/-- What went wrong is an access token, or that there is none. -/
def IsAuthentication (e : Error) : Prop := ∃ cause, e.root = .authentication cause

lemma IsArgument.not_isAuthentication {e : Error} (h : e.IsArgument) : ¬e.IsAuthentication := by
  obtain ⟨cause, hroot⟩ := h
  rintro ⟨cause', hroot'⟩
  rw [hroot] at hroot'
  cases hroot'

/-- What went wrong came of a request, or of the lack of an answer to it. -/
structure IsOutcome (e : Error) : Prop where
  not_isArgument : ¬e.IsArgument
  not_isAuthentication : ¬e.IsAuthentication

lemma isArgument_within {label : Label} {e : Error} :
    (within label e).IsArgument ↔ e.IsArgument := Iff.rfl

lemma isOutcome_within {label : Label} {e : Error} :
    (within label e).IsOutcome ↔ e.IsOutcome :=
  ⟨fun h => ⟨h.1, h.2⟩, fun h => ⟨h.1, h.2⟩⟩

lemma isOutcome_network (cause : NetworkError) : (network cause).IsOutcome := ⟨nofun, nofun⟩

lemma isOutcome_api (cause : ApiError) : (api cause).IsOutcome := ⟨nofun, nofun⟩

lemma isOutcome_response (cause : ResponseError) : (response cause).IsOutcome := ⟨nofun, nofun⟩

lemma isOutcome_pagination (cause : PaginationError) : (pagination cause).IsOutcome :=
  ⟨nofun, nofun⟩

lemma isOutcome_provisioning (cause : ProvisioningError) : (provisioning cause).IsOutcome :=
  ⟨nofun, nofun⟩

end Error

/-! ### Steps -/

namespace Step

variable {α β : Type}

/-- From a session with `I` a step leaves a session with `I`, and it fails only with an `F`. -/
structure Keeps (I : Session → Prop) (F : Error → Prop) (x : Step α) : Prop where
  session : ∀ {s}, I s → I (x s).2
  failure : ∀ {s}, I s → ∀ e, (x s).1 = .error e → F e

variable {I : Session → Prop} {F : Error → Prop}

lemma keeps_pure (a : α) : Keeps I F (pure a : Step α) := ⟨id, by simp⟩

lemma keeps_fail {e : Error} (h : F e) : Keeps I F (fail e : Step α) := ⟨id, by simp [h]⟩

lemma keeps_ofExcept {r : Except Error α} (h : ∀ e, r = .error e → F e) :
    Keeps I F (ofExcept r) := ⟨by simp, fun _ e he => h e (by simpa using he)⟩

lemma keeps_log (h : ∀ s es, I s → I (s.noting es)) (level : Level) (message : String)
    (fields : List (String × LogField)) (times : List (String × Option Instant)) :
    Keeps I F (log level message fields times) :=
  ⟨h _ _, by simp⟩

lemma Keeps.bind {x : Step α} {f : α → Step β} (hx : Keeps I F x) (hf : ∀ a, Keeps I F (f a)) :
    Keeps I F (x >>= f) := by
  constructor <;> intro s hs
  · rcases h : x s with ⟨e | a, s₁⟩
    · rw [bind_of_error h]
      simpa [h] using hx.session hs
    · rw [bind_of_ok h]
      exact (hf a).session (by simpa [h] using hx.session hs)
  · rcases h : x s with ⟨e | a, s₁⟩
    · rw [bind_of_error h]
      rintro _ ⟨⟩
      exact hx.failure hs _ (by rw [h])
    · rw [bind_of_ok h]
      exact (hf a).failure (by simpa [h] using hx.session hs)

lemma Keeps.map {x : Step α} (hx : Keeps I F x) (f : α → β) : Keeps I F (f <$> x) :=
  hx.bind fun a => keeps_pure (f a)

/-- The result of a step may be looked at, whatever it is. -/
lemma Keeps.attempt_bind {x : Step α} {f : Except Error α → Step β} (hx : Keeps I F x)
    (hf : ∀ r, (∀ e, r = .error e → F e) → Keeps I F (f r)) : Keeps I F (x.attempt >>= f) := by
  constructor <;> intro s hs <;> rw [bind_of_ok (attempt_apply x s)]
  · exact (hf _ (hx.failure hs)).session (hx.session hs)
  · exact (hf _ (hx.failure hs)).failure (hx.session hs)

/-- A failure may be reported. -/
lemma Keeps.rescue_log (h : ∀ s es, I s → I (s.noting es)) {x : Step α} (hx : Keeps I F x)
    (level : Level) (message : String) (fields : Error → List (String × LogField)) :
    Keeps I F (x.rescue fun e => do log level message (fields e); fail e) := by
  constructor <;> intro s hs <;> rw [rescue_log_apply] <;> rcases hr : x s with ⟨e | a, s₁⟩
  · exact h _ _ (by simpa [hr] using hx.session hs)
  · simpa [hr] using hx.session hs
  · rintro _ ⟨⟩
    exact hx.failure hs _ (by rw [hr])
  · simp

end Step

/-! ### Calls -/

/-- Whether a call carries a listing on. -/
def Operation.isContinuing : Operation → Bool
  | .listMembersContinue | .listGroupsContinue | .listGroupMembersContinue => true
  | _ => false

/-- A call that carries a listing on has a cursor to do it with. -/
def Operation.Carries (op : Operation) (body : Json.Value) : Prop :=
  op.isContinuing = true → ∃ cursor, cursor ≠ "" ∧ body = Directory.cursorBody cursor

/-- A property of sessions that the calls of a client keep, and the errors that they fail with:
those of a token that is missing or cannot be sent, and all those that come of a request. -/
structure Client.Keeping (c : Client) (I : Session → Prop) (F : Error → Prop) : Prop where
  noting : ∀ s es, I s → I (s.noting es)
  token : ∀ s, I s → I (c.token s).2
  refusal : ∀ s e, I s → sendable (c.token s).1 = .error e → ∀ label, F (.within label e)
  spend : ∀ s op t body es, op.Carries body → I s → I (s.spend (c.requestOf op t body) es)
  outcome : ∀ e, e.IsOutcome → F e

/-- The ways in which a round trip fails: no token that can be sent, or what the answer comes to. -/
lemma Client.roundTrip_error {α : Type} {c : Client} {op : Operation} {body : Json.Value}
    {outcome : Option Answer → Except Error α} {told : Option Answer → List Event} {s : Session}
    {e : Error} (h : (c.roundTrip op body outcome told s).1 = .error e) :
    (∃ e', sendable (c.token s).1 = .error e' ∧ e = .within op e') ∨
      ∃ a, outcome a = .error e := by
  rw [roundTrip_eq_visit] at h
  rcases ht : sendable (c.token s).1 with e' | t
  · rw [visit_of_error ht] at h
    cases h
    exact .inl ⟨e', rfl, rfl⟩
  · rw [visit_of_ok ht] at h
    exact .inr ⟨_, h⟩

/-- An answer that is no success comes of its request. -/
lemma Client.Rejects.isOutcome {c : Client} {op : Operation} {a : Option Answer} {e : Error}
    (h : c.Rejects op a e) : e.IsOutcome := by
  cases h with
  | noAnswer => exact Error.isOutcome_network _
  | transport => exact Error.isOutcome_network _
  | status => exact Error.isOutcome_api _

lemma Client.isOutcome_read {α : Type} (c : Client) (d : Json.Decoder α) {op : Operation}
    {a : Option Answer} {e : Error} (h : c.read d op a = .error e) : e.IsOutcome := by
  rcases c.success_or_rejects op a with ⟨status, headers, body, arrival, rfl, hs⟩ | ⟨e', he⟩
  · rw [read, c.receive_of_success op headers body arrival hs] at h
    rcases hd : d.decode body with f | v
    · obtain rfl : Error.within op (.response (.deserialization f.message)) = e := by
        simpa [hd] using h
      exact Error.isOutcome_within.mpr (Error.isOutcome_response _)
    · simp [hd] at h
  · obtain rfl : Error.within op e' = e := by
      simpa [read, Client.receive_of_rejects he] using h
    exact Error.isOutcome_within.mpr he.isOutcome

lemma Client.isOutcome_accept (c : Client) {op : Operation} {a : Option Answer} {e : Error}
    (h : c.accept op a = .error e) : e.IsOutcome := by
  rcases c.success_or_rejects op a with ⟨status, headers, body, arrival, rfl, hs⟩ | ⟨e', he⟩
  · simp [accept, c.receive_of_success op headers body arrival hs] at h
  · obtain rfl : Error.within op e' = e := by
      simpa [accept, Client.receive_of_rejects he] using h
    exact Error.isOutcome_within.mpr he.isOutcome

lemma Catalog.isOutcome_read (d : Directory) (c : Catalog) {pt : PageToken}
    {a : Option Answer} {e : Error} (h : c.read d pt a = .error e) : e.IsOutcome := by
  rw [Catalog.read_error_iff] at h
  cases h with
  | rejected h => exact Error.isOutcome_within.mpr h.isOutcome
  | undecodable => exact Error.isOutcome_within.mpr (Error.isOutcome_response _)
  | noCursor => exact Error.isOutcome_pagination _

lemma Client.not_isArgument_read {α : Type} (c : Client) (d : Json.Decoder α) {op : Operation}
    {a : Option Answer} {e : Error} (h : c.read d op a = .error e) : ¬e.IsArgument :=
  (c.isOutcome_read d h).not_isArgument

lemma Client.not_isArgument_accept (c : Client) {op : Operation} {a : Option Answer} {e : Error}
    (h : c.accept op a = .error e) : ¬e.IsArgument :=
  (c.isOutcome_accept h).not_isArgument

namespace Client.Keeping

open Step

variable {α : Type} {c : Client} {I : Session → Prop} {F : Error → Prop} (h : c.Keeping I F)
  {op : Operation} {body : Json.Value}

include h

lemma roundTrip (hb : op.Carries body) {outcome : Option Answer → Except Error α}
    (ho : ∀ a e, outcome a = .error e → F e) (told : Option Answer → List Event) :
    Keeps I F (c.roundTrip op body outcome told) := by
  constructor <;> intro s hs
  · rcases ht : c.token s with ⟨e | t, s₁⟩ <;>
      have hs₁ : I s₁ := by simpa [ht] using h.token s hs
    · rw [roundTrip_apply_error c op body _ _ ht]
      exact hs₁
    · rcases hl : Http.isHeaderValue (bearer t) with _ | _
      · rw [roundTrip_apply_illegal c op body _ _ ht hl]
        exact hs₁
      · rw [roundTrip_apply c op body _ _ ht hl]
        exact h.spend _ _ _ _ _ hb hs₁
  · intro e he
    rcases roundTrip_error he with ⟨e', ht, rfl⟩ | ⟨a, ha⟩
    · exact h.refusal s e' hs ht op
    · exact ho a e ha

lemma call (hb : op.Carries body) (d : Json.Decoder α) : Keeps I F (c.call d op (some body)) := by
  rw [Client.call_eq]
  exact h.roundTrip hb (fun _ e he => h.outcome e (c.isOutcome_read d he)) _

lemma callDiscard (hb : op.Carries body) : Keeps I F (c.callDiscard op (some body)) := by
  rw [Client.callDiscard_eq]
  exact h.roundTrip hb (fun _ e he => h.outcome e (c.isOutcome_accept he)) _

end Client.Keeping

/-! ### Pages and drains -/

lemma Operation.carries_of_not {op : Operation} (h : op.isContinuing = false) (body : Json.Value) :
    op.Carries body := fun hc => absurd hc (by simp [h])

lemma Operation.isContinuing_list (l : Listing) (phase : Phase) :
    (list l phase).isContinuing = (phase == .continuing) := by
  cases l <;> cases phase <;> rfl

namespace Catalog

open Step

variable {d : Directory} {I : Session → Prop} {F : Error → Prop}

/-- The page of a token is carried on with that token. -/
lemma carries_body (d : Directory) (c : Catalog) (pt : PageToken) :
    (c.op pt).Carries (c.body d pt) := by
  intro hc
  rcases h : pt.isStart with _ | _
  · exact ⟨pt.text, by simpa [PageToken.isStart] using h, by simp [body, h]⟩
  · simp [op, PageToken.phase, h, Operation.isContinuing_list] at hc

variable (h : d.client.Keeping I F) (c : Catalog)

include h

lemma keeps_fetch (pt : PageToken) : Keeps I F ((c.pages d).fetch pt) := by
  rw [fetch_eq]
  exact h.roundTrip (c.carries_body d pt)
    (fun _ e he => h.outcome e (c.isOutcome_read d he)) _

lemma keeps_drainFrom (budget : ℕ) (pt : PageToken) (before : List c.Item) (n : ℕ) :
    Keeps I F ((c.pages d).drainFrom budget pt before n) := by
  induction budget generalizing pt before n with
  | zero =>
    unfold Paged.drainFrom
    refine (keeps_fetch h c pt).bind fun page => ?_
    simp only
    split_ifs
    · exact keeps_pure _
    · exact keeps_fail (h.outcome _ (Error.isOutcome_pagination _))
  | succ budget ih =>
    unfold Paged.drainFrom
    refine (keeps_fetch h c pt).bind fun page => ?_
    simp only
    split_ifs
    · exact keeps_pure _
    · exact ih _ _ _

lemma keeps_drain : Keeps I F (c.pages d).drain :=
  ⟨fun hs => (keeps_drainFrom h c _ _ _ _).session hs,
    fun hs => (keeps_drainFrom h c _ _ _ _).failure hs⟩

end Catalog

/-! ### Accounts and changes -/

namespace Directory

open Step

variable {d : Directory} {I : Session → Prop} {F : Error → Prop} (h : d.client.Keeping I F)

include h

lemma keeps_mutate (kind : MutationKind) {op : Operation} {body : Json.Value}
    (hb : op.Carries body) : Keeps I F (d.mutate kind op body) := by
  refine (h.callDiscard hb).attempt_bind fun r hr => ?_
  rcases r with e | r
  · simp only [settle]
    split_ifs
    · exact (keeps_log h.noting _ _ _ _).bind fun _ => keeps_pure _
    · exact keeps_fail (hr e rfl)
  · exact keeps_pure _

lemma keeps_invite (email : String) : Keeps I F (d.invite email) :=
  h.call (Operation.carries_of_not rfl _) _

lemma keeps_remove (member : String) : Keeps I F (d.remove member) := by
  refine (h.call (Operation.carries_of_not rfl _) _).bind fun a => ?_
  split_ifs
  · exact keeps_fail (h.outcome _ (Error.isOutcome_response _))
  · exact keeps_pure _

end Directory

end TeamSync
