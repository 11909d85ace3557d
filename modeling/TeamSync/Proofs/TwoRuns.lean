import TeamSync.Proofs.Course

/-!
Two runs side by side. Sessions are paired if they differ at most in what a mask hides of their
requests, and if their tokens to come are of the same use. Everything that is done with a connector
comes to the same in both and leaves them paired.
-/

namespace TeamSync

/-- Two tokens that cannot be told apart where a mask hides parts of requests: both are sent, in
requests that look the same, or both fail for the same reason. -/
inductive Client.Indistinct (c : Client) (mask : Http.Request → Http.Request)
    (r r' : Except Error String) : Prop where
  | sent {t t' : String} (h : sendable r = .ok t) (h' : sendable r' = .ok t')
      (hm : ∀ op body, mask (c.requestOf op t body) = mask (c.requestOf op t' body))
  | failed {e : Error} (h : sendable r = .error e) (h' : sendable r' = .error e)

/-- Two sessions that cannot be told apart by a client behind a mask. -/
structure Session.Paired (c : Client) (mask : Http.Request → Http.Request) (s u : Session) :
    Prop where
  queue : s.transport.queue = u.transport.queue
  standing : s.transport.standing = u.transport.standing
  log : s.log = u.log
  sent : s.transport.sent.map mask = u.transport.sent.map mask
  tokens : ∀ i, c.Indistinct mask (c.tokenAt s i) (c.tokenAt u i)

/-- A step comes to the same in paired sessions and leaves them paired. -/
def Step.Agrees {α : Type} (c : Client) (mask : Http.Request → Http.Request) (x : Step α)
    (s u : Session) : Prop :=
  (x s).1 = (x u).1 ∧ (x s).2.Paired c mask (x u).2

namespace Session.Paired

variable {c : Client} {mask : Http.Request → Http.Request} {s u s' u' : Session}

/-- The tokens to come depend on the sources alone. -/
lemma tokens_congr (h : ∀ i, c.Indistinct mask (c.tokenAt s i) (c.tokenAt u i))
    (hs : s'.source = s.source) (hu : u'.source = u.source) (i : ℕ) :
    c.Indistinct mask (c.tokenAt s' i) (c.tokenAt u' i) := by
  rw [c.tokenAt_congr hs, c.tokenAt_congr hu]
  exact h i

/-- Sessions stay paired when the same is logged in both. -/
lemma noting (h : s.Paired c mask u) (es : List Event) :
    (s.noting es).Paired c mask (u.noting es) where
  queue := h.queue
  standing := h.standing
  log := by rw [Session.noting_log, Session.noting_log, h.log]
  sent := h.sent
  tokens := tokens_congr h.tokens rfl rfl

lemma next? (h : s.Paired c mask u) : s.transport.next? = u.transport.next? := by
  rw [Transport.next?, Transport.next?, h.queue, h.standing]

/-- Sessions stay paired when both ask for a token. -/
lemma token (h : s.Paired c mask u) : (c.token s).2.Paired c mask (c.token u).2 where
  queue := by rw [c.token_transport, c.token_transport, h.queue]
  standing := by rw [c.token_transport, c.token_transport, h.standing]
  log := by rw [c.token_log, c.token_log, h.log]
  sent := by rw [c.token_transport, c.token_transport, h.sent]
  tokens i := h.tokens (i + 1)

/-- Sessions stay paired when both send requests that look the same. -/
lemma spend (h : s.Paired c mask u) {r r' : Http.Request} (hr : mask r = mask r')
    (es : List Event) : (s.spend r es).Paired c mask (u.spend r' es) where
  queue := by rw [Session.spend_queue, Session.spend_queue, h.queue]
  standing := h.standing
  log := by simp only [Session.spend, h.log]
  sent := by simp [h.sent, hr]
  tokens := tokens_congr h.tokens rfl rfl

end Session.Paired

namespace Step

variable {α β : Type} {c : Client} {mask : Http.Request → Http.Request} {s u : Session}

lemma Agrees.exists_runs {x : Step α} (h : x.Agrees c mask s u) :
    ∃ r s₁ u₁, x s = (r, s₁) ∧ x u = (r, u₁) ∧ s₁.Paired c mask u₁ :=
  ⟨(x s).1, (x s).2, (x u).2, rfl, Prod.ext h.1.symm rfl, h.2⟩

lemma agrees_finish {x : Step α} (h : x.Agrees c mask s u)
    (f : Except Error α → Except Error β × List Event) : (x.finish f).Agrees c mask s u := by
  obtain ⟨hres, hpair⟩ := h
  rw [Agrees, finish, finish, hres]
  exact ⟨rfl, hpair.noting _⟩

/-- **A visit comes to the same in both runs.** -/
theorem agrees_visit (h : s.Paired c mask u) (op : Operation) (body : Json.Value)
    (f : Except Error (Option Answer) → Except Error α × List Event) :
    (c.visit op body f).Agrees c mask s u := by
  cases h.tokens 0 with
  | sent ht hu hm =>
    rw [Agrees, Client.visit_of_ok ht, Client.visit_of_ok hu, h.next?]
    exact ⟨rfl, h.token.spend (hm op body) _⟩
  | failed ht hu =>
    rw [Agrees, Client.visit_of_error ht, Client.visit_of_error hu]
    exact ⟨rfl, h.token.noting _⟩

end Step

/-! ### Drains -/

namespace Catalog

variable {d : Directory} {c : Catalog} {mask : Http.Request → Http.Request} {s u : Session}

lemma agrees_fetch (h : s.Paired d.client mask u) (pt : PageToken) :
    ((c.pages d).fetch pt).Agrees d.client mask s u := by
  rw [fetch_eq, Client.roundTrip_eq_visit]
  exact Step.agrees_visit h _ _ _

/-- Drains come to the same if they do so after a page that is not the last. -/
lemma agrees_drainFrom_of_more {budget : ℕ} {pt : PageToken} {before : List c.Item} {n : ℕ}
    (h : s.Paired d.client mask u)
    (hmore : ∀ p s₁ u₁, (c.pages d).fetch pt s = (.ok p, s₁) →
      (c.pages d).fetch pt u = (.ok p, u₁) → p.nextToken.isStart = false →
      s₁.Paired d.client mask u₁ →
      ((c.pages d).drainFrom budget pt before n).Agrees d.client mask s u) :
    ((c.pages d).drainFrom budget pt before n).Agrees d.client mask s u := by
  obtain ⟨e | p, s₁, u₁, hs, hu, hpair⟩ := (agrees_fetch (c := c) h pt).exists_runs
  · rw [Step.Agrees, Paged.drainFrom_of_error hs, Paged.drainFrom_of_error hu]
    exact ⟨rfl, hpair⟩
  rcases hm : p.nextToken.isStart with _ | _
  · exact hmore p s₁ u₁ hs hu hm hpair
  · rw [Step.Agrees, Paged.drainFrom_of_last hs hm, Paged.drainFrom_of_last hu hm]
    exact ⟨rfl, hpair⟩

/-- Drains with the same budget come to the same. -/
lemma agrees_drainFrom (budget : ℕ) (pt : PageToken) (before : List c.Item) (n : ℕ)
    (h : s.Paired d.client mask u) :
    ((c.pages d).drainFrom budget pt before n).Agrees d.client mask s u := by
  induction budget generalizing pt before n s u with
  | zero =>
    refine agrees_drainFrom_of_more h fun p s₁ u₁ hs hu hm hpair => ?_
    rw [Step.Agrees, Paged.drainFrom_zero_of_more hs hm, Paged.drainFrom_zero_of_more hu hm]
    exact ⟨rfl, hpair⟩
  | succ budget ih =>
    refine agrees_drainFrom_of_more h fun p s₁ u₁ hs hu hm hpair => ?_
    rw [Step.Agrees, Paged.drainFrom_of_more hs hm, Paged.drainFrom_of_more hu hm]
    exact ih _ _ _ hpair

/-- A drain that ends comes to what it comes to with any larger budget. -/
lemma drainFrom_of_ends (h : (c.pages d).Ends s) {budget : ℕ} (hb : s.supply ≤ budget) :
    (c.pages d).drainFrom budget .start [] 0 s = (c.pages d).drain s := by
  obtain ⟨r, s₁, hd⟩ := h
  rw [drainFrom_of_drains hd hb, drain_of_drains hd]

/-- **Drains come to the same in both runs**, if they have the same budget or end. -/
theorem agrees_drain (h : s.Paired d.client mask u)
    (hd : s.supply = u.supply ∨ (c.pages d).Ends s) :
    (c.pages d).drain.Agrees d.client mask s u := by
  rcases hd with hsup | hends
  · have hag := agrees_drainFrom (c := c) s.supply .start [] 0 h
    have hu : (c.pages d).drain u = (c.pages d).drainFrom s.supply .start [] 0 u := by
      rw [hsup]
      rfl
    rw [Step.Agrees, hu]
    exact hag
  · -- a budget that is large enough for both
    have hs := drainFrom_of_ends hends (Nat.le_max_left s.supply u.supply)
    have hag := agrees_drainFrom (c := c) (max s.supply u.supply) .start [] 0 h
    rw [Step.Agrees, hs] at hag
    have hne := ends_iff.mp hends
    have hendsu : (c.pages d).Ends u := by
      have hname : (c.pages d).listing = c.listing := by cases c <;> rfl
      exact ⟨_, _, Paged.drains_of_drainFrom rfl (by rw [hname, ← hag.1]; exact hne)⟩
    have hu := drainFrom_of_ends hendsu (Nat.le_max_right s.supply u.supply)
    rw [hu] at hag
    exact hag

end Catalog

/-! ### Commands and turns -/

/-- The error that stands for a listing of members that never ends. -/
def endlessMembers : Error := .pagination (.endless Listing.members.name)

namespace Connector

variable {k : Connector} {mask : Http.Request → Http.Request} {s u : Session}

/-- **A command comes to the same in both runs**, unless it never ends. -/
theorem agrees_perform (h : s.Paired k.directory.client mask u) (cmd : Command)
    (hd : s.supply = u.supply ∨ (k.perform cmd s).1 ≠ .error endlessMembers) :
    (k.perform cmd).Agrees k.directory.client mask s u := by
  cases k.manner cmd with
  | idle hi r es hp hr =>
    rw [hp]
    exact ⟨rfl, h.noting es⟩
  | once hi hl op hb hv =>
    obtain ⟨f, hf, -⟩ := hv
    rw [hf]
    exact Step.agrees_visit h _ _ f
  | @through hi hl f hp hf =>
    rw [hp]
    refine Step.agrees_finish (Catalog.agrees_drain (c := .members) h ?_) _
    rcases hd with hsup | hne
    · exact .inl hsup
    · refine .inr (Catalog.ends_iff.mpr fun hend => hne ?_)
      have hres : (k.directory.members.drain s).1 = .error endlessMembers := hend
      rw [hp, Step.finish, hres]
      rfl

/-- What is paired stays paired when the same answers come in. -/
lemma paired_enqueue {c : Client} (h : s.Paired c mask u) (as : List Answer) :
    Session.Paired c mask { s with transport := s.transport.enqueue as }
      { u with transport := u.transport.enqueue as } where
  queue := by simp [Transport.enqueue, h.queue]
  standing := h.standing
  log := h.log
  sent := h.sent
  tokens := Session.Paired.tokens_congr h.tokens rfl rfl

lemma paired_setStanding {c : Client} (h : s.Paired c mask u) (a : Answer) :
    Session.Paired c mask { s with transport := s.transport.setStanding a }
      { u with transport := u.transport.setStanding a } where
  queue := h.queue
  standing := rfl
  log := h.log
  sent := h.sent
  tokens := Session.Paired.tokens_congr h.tokens rfl rfl

/-- A turn comes to the same in both runs, unless it never ends. -/
lemma agrees_turn (h : s.Paired k.directory.client mask u) (t : Turn)
    (hd : s.supply = u.supply ∨ ∀ r ∈ (k.turn s t).1, r ≠ .error endlessMembers) :
    (k.turn s t).1 = (k.turn u t).1 ∧
      (k.turn s t).2.Paired k.directory.client mask (k.turn u t).2 := by
  cases t with
  | perform cmd =>
    obtain ⟨hres, hpair⟩ := agrees_perform h cmd
      (hd.imp_right fun hne => hne _ List.mem_cons_self)
    exact ⟨by simp only [turn, hres], hpair⟩
  | enqueue as => exact ⟨rfl, paired_enqueue h as⟩
  | setStanding a => exact ⟨rfl, paired_setStanding h a⟩

/-- **Sessions come to the same in both runs** if no turn is one that never ends. -/
theorem agrees_play (h : s.Paired k.directory.client mask u) (ts : List Turn)
    (hd : ∀ r ∈ (k.play ts s).1, r ≠ .error endlessMembers) :
    (k.play ts s).1 = (k.play ts u).1 ∧
      (k.play ts s).2.Paired k.directory.client mask (k.play ts u).2 := by
  induction ts generalizing s u with
  | nil => exact ⟨rfl, h⟩
  | cons t ts ih =>
    have hfirst : ∀ r ∈ (k.turn s t).1, r ≠ .error endlessMembers := fun r hr =>
      hd r (List.mem_append_left _ hr)
    obtain ⟨hres, hpair⟩ := agrees_turn h t (.inr hfirst)
    obtain ⟨hrest, hlast⟩ := ih hpair fun r hr => hd r (List.mem_append_right _ hr)
    exact ⟨by simp only [play_cons, hres, hrest], hlast⟩

lemma turn_held {cr : Credential} (hk : k.directory.client.tokens = .held cr) (s : Session)
    (t : Turn) : (k.turn s t).2.source = s.source := by
  obtain ⟨xs, -, hmade⟩ := k.exists_made_turn s t
  exact hmade.source.trans (Client.makeAll_held hk s xs).1

/-- With a token that is held they come to the same in any case: the runs have one budget. -/
theorem agrees_play_held {cr : Credential} (hk : k.directory.client.tokens = .held cr)
    (h : s.Paired k.directory.client mask u) (hsrc : s.source = u.source) (ts : List Turn) :
    (k.play ts s).1 = (k.play ts u).1 ∧
      (k.play ts s).2.Paired k.directory.client mask (k.play ts u).2 := by
  induction ts generalizing s u with
  | nil => exact ⟨rfl, h⟩
  | cons t ts ih =>
    have hsup : s.supply = u.supply := by
      rw [Session.supply, Session.supply, h.queue, hsrc]
    obtain ⟨hres, hpair⟩ := agrees_turn h t (.inl hsup)
    obtain ⟨hrest, hlast⟩ := ih hpair (by rw [turn_held hk, turn_held hk, hsrc])
    exact ⟨by simp only [play_cons, hres, hrest], hlast⟩

end Connector

end TeamSync
