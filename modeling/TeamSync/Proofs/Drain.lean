import TeamSync.Proofs.Catalog

/-!
The loop of a drain as a relation without a budget, and the proof that the budget never cuts it
short: whatever the loop comes to, the drain comes to, and the drain reports an endless listing
only where the loop does not end.
-/

namespace TeamSync

namespace Paged

variable {α : Type}

/-- A drain that goes on from a token, with the items and the number of pages before it, ends with
a result and leaves a session. -/
inductive Drains (p : Paged α) :
    PageToken → List α → ℕ → Session → Except Error (Drained α) → Session → Prop where
  | failed {pt : PageToken} {before : List α} {n : ℕ} {s s₁ : Session} {e : Error}
      (h : p.fetch pt s = (.error e, s₁)) : Drains p pt before n s (.error e) s₁
  | last {pt : PageToken} {before : List α} {n : ℕ} {s s₁ : Session} {page : Page α}
      (h : p.fetch pt s = (.ok page, s₁)) (hl : page.nextToken.isStart = true) :
      Drains p pt before n s (.ok ⟨before ++ page.items, n + 1, page.rateLimit⟩) s₁
  | more {pt : PageToken} {before : List α} {n : ℕ} {s s₁ s₂ : Session} {page : Page α}
      {r : Except Error (Drained α)}
      (h : p.fetch pt s = (.ok page, s₁)) (hm : page.nextToken.isStart = false)
      (hd : Drains p page.nextToken (before ++ page.items) (n + 1) s₁ r s₂) :
      Drains p pt before n s r s₂

/-- The loop of a drain from the start ends. -/
def Ends (p : Paged α) (s : Session) : Prop := ∃ r s₁, p.Drains .start [] 0 s r s₁

variable {p : Paged α} {pt : PageToken} {before : List α} {n : ℕ} {s s₁ : Session}

lemma drainFrom_of_error {e : Error} (h : p.fetch pt s = (.error e, s₁)) (budget : ℕ) :
    p.drainFrom budget pt before n s = (.error e, s₁) := by
  unfold drainFrom
  exact Step.bind_of_error h _

lemma drainFrom_of_last {page : Page α} (h : p.fetch pt s = (.ok page, s₁))
    (hl : page.nextToken.isStart = true) (budget : ℕ) :
    p.drainFrom budget pt before n s =
      (.ok ⟨before ++ page.items, n + 1, page.rateLimit⟩, s₁) := by
  unfold drainFrom
  rw [Step.bind_of_ok h]
  simp [hl]

lemma drainFrom_of_more {page : Page α} (h : p.fetch pt s = (.ok page, s₁))
    (hm : page.nextToken.isStart = false) (budget : ℕ) :
    p.drainFrom (budget + 1) pt before n s =
      p.drainFrom budget page.nextToken (before ++ page.items) (n + 1) s₁ := by
  rw [drainFrom, Step.bind_of_ok h]
  simp [hm]

lemma drainFrom_zero_of_more {page : Page α} (h : p.fetch pt s = (.ok page, s₁))
    (hm : page.nextToken.isStart = false) :
    p.drainFrom 0 pt before n s = (.error (.pagination (.endless p.listing.name)), s₁) := by
  rw [drainFrom, Step.bind_of_ok h]
  simp [hm]

/-- What a drain comes to, the loop comes to, unless the budget ends. -/
lemma drains_of_drainFrom {budget : ℕ} {r : Except Error (Drained α)}
    (h : p.drainFrom budget pt before n s = (r, s₁))
    (hr : r ≠ .error (.pagination (.endless p.listing.name))) :
    p.Drains pt before n s r s₁ := by
  induction budget generalizing pt before n s with
  | zero =>
    rcases hf : p.fetch pt s with ⟨e | page, s₂⟩
    · rw [drainFrom_of_error hf] at h
      cases h; exact .failed hf
    rcases hm : page.nextToken.isStart with _ | _
    · rw [drainFrom_zero_of_more hf hm] at h
      cases h; exact absurd rfl hr
    · rw [drainFrom_of_last hf hm] at h
      cases h; exact .last hf hm
  | succ budget ih =>
    rcases hf : p.fetch pt s with ⟨e | page, s₂⟩
    · rw [drainFrom_of_error hf] at h
      cases h; exact .failed hf
    rcases hm : page.nextToken.isStart with _ | _
    · rw [drainFrom_of_more hf hm] at h
      exact .more hf hm (ih h)
    · rw [drainFrom_of_last hf hm] at h
      cases h; exact .last hf hm

end Paged

/-! ### What a page takes from the supply of a session -/

namespace Session

lemma supply_spend_le (s : Session) (r : Http.Request) (es : List Event) :
    (s.spend r es).supply ≤ s.supply := by
  simp only [supply, spend_queue, spend_source, List.length_tail]
  omega

lemma queue_of_supply_spend {s : Session} {r : Http.Request} {es : List Event}
    (h : (s.spend r es).supply = s.supply) : s.transport.queue = [] := by
  simp only [supply, spend_queue, spend_source, List.length_tail] at h
  have : s.transport.queue.length = 0 := by omega
  exact List.length_eq_zero_iff.mp this

end Session

namespace Client

lemma supply_token_le (c : Client) (s : Session) : (c.token s).2.supply ≤ s.supply := by
  rcases c.token_cases s with ⟨_, _, h⟩ | ⟨_, _, h⟩ | ⟨src, _, hs, h⟩
  · simp [h]
  · simp [h]
  · rcases hl : src.later with _ | ⟨a, as⟩ <;>
      simp [h, Session.supply, TokenSource.advance, hl, hs]

/-- A consultation that takes nothing from the supply leaves the source as it was. -/
lemma source_of_supply_token {c : Client} {s : Session} (h : (c.token s).2.supply = s.supply) :
    (c.token s).2.source = s.source := by
  rcases c.token_cases s with ⟨_, _, ht⟩ | ⟨_, _, ht⟩ | ⟨src, _, hs, ht⟩ <;> rw [ht] at h ⊢
  · rcases hl : src.later with _ | ⟨a, as⟩
    · simp [TokenSource.advance, hl, hs]
    · simp [Session.supply, TokenSource.advance, hl, hs] at h

/-- If a consultation leaves the source as it was, all consultations yield the same. -/
lemma supplies_of_source {c : Client} {s : Session} {t : String} (ht : (c.token s).1 = .ok t)
    (hl : Http.isHeaderValue (bearer t)) (h : (c.token s).2.source = s.source) :
    c.Supplies s fun _ => t := by
  intro k
  refine ⟨?_, hl⟩
  induction k with
  | zero => exact ht
  | succ k ih => rw [tokenAt, c.tokenAt_congr h, ih]

end Client

namespace Catalog

variable {d : Directory} {c : Catalog} {pt : PageToken} {s s₁ : Session}

/-- Everything that there is to a page that was got. -/
lemma fetch_ok {page : Page c.Item} (h : (c.pages d).fetch pt s = (.ok page, s₁)) :
    ∃ t a es, (d.client.token s).1 = .ok t ∧ Http.isHeaderValue (bearer t) ∧
      s.transport.next? = some a ∧ c.page? d a = some page ∧ ¬page.Strays ∧
      s₁ = (d.client.token s).2.spend (c.request d t pt) es := by
  rcases ht : d.client.token s with ⟨e | t, s₂⟩
  · rw [fetch_eq, Client.roundTrip_apply_error _ _ _ _ _ ht] at h
    cases h
  rcases hl : Http.isHeaderValue (bearer t) with _ | _
  · rw [fetch_eq, Client.roundTrip_apply_illegal _ _ _ _ _ ht hl] at h
    cases h
  rw [fetch_apply d c pt ht hl, Prod.mk.injEq, read_ok_iff] at h
  obtain ⟨⟨a, ha, hp, hs⟩, rfl⟩ := h
  exact ⟨t, a, _, rfl, hl, ha, hp, hs, rfl⟩

lemma Refuses.ne_endless {a : Option Answer} {e : Error} (h : c.Refuses d pt a e) (l : Listing) :
    e ≠ .pagination (.endless l.name) := by
  cases h <;> simp

/-- No page fails for being one of endlessly many. -/
lemma fetch_error {e : Error} (h : (c.pages d).fetch pt s = (.error e, s₁)) (l : Listing) :
    e ≠ .pagination (.endless l.name) := by
  rcases ht : d.client.token s with ⟨e' | t, s₂⟩
  · rw [fetch_eq, Client.roundTrip_apply_error _ _ _ _ _ ht] at h
    cases h; simp
  rcases hl : Http.isHeaderValue (bearer t) with _ | _
  · rw [fetch_eq, Client.roundTrip_apply_illegal _ _ _ _ _ ht hl] at h
    cases h; simp
  rw [fetch_apply d c pt ht hl, Prod.mk.injEq, read_error_iff] at h
  exact h.1.ne_endless l

/-! ### A listing that never ends -/

/-- Nothing is left that could change: the queue is empty, one token is yielded for ever, and the
standing answer holds a page that leads on. -/
structure Stuck (d : Directory) (c : Catalog) (s : Session) : Prop where
  queue : s.transport.queue = []
  answer : ∃ a p, s.transport.standing = some a ∧ c.page? d a = some p ∧ p.Leads
  tokens : ∃ t, d.client.Supplies s fun _ => t

/-- A session that is stuck gets another page and is stuck after it. -/
lemma Stuck.fetch (h : Stuck d c s) (pt : PageToken) :
    ∃ page s₁, (c.pages d).fetch pt s = (.ok page, s₁) ∧ page.Leads ∧ Stuck d c s₁ := by
  obtain ⟨hq, ⟨a, p, hst, hp, hlead⟩, t, hts⟩ := h
  have hnext : s.transport.next? = some a := by simp [Transport.next?, hq, hst]
  have hread : c.read d pt s.transport.next? = .ok p :=
    (read_ok_iff d c).mpr ⟨a, hnext, hp, hlead.not_strays⟩
  refine ⟨p, _, by rw [fetch_apply d c pt hts.token hts.legal, hread], hlead, ?_, ?_, ?_⟩
  · simp [hq]
  · exact ⟨a, p, by simp [hst], hp, hlead⟩
  · exact ⟨t, hts.tail.congr (by simp)⟩

lemma Stuck.not_drains {before : List c.Item} {n : ℕ} {r : Except Error (Drained c.Item)}
    (h : Stuck d c s) : ¬(c.pages d).Drains pt before n s r s₁ := by
  intro hd
  induction hd with
  | failed hf =>
    obtain ⟨page, s₂, hf', -, -⟩ := h.fetch (d := d) (c := c) _
    rw [hf] at hf'
    cases hf'
  | last hf hl =>
    obtain ⟨page, s₂, hf', hlead, -⟩ := h.fetch (d := d) (c := c) _
    rw [hf] at hf'
    cases hf'
    simp [hlead.isStart_nextToken] at hl
  | more hf hm _ ih =>
    obtain ⟨page, s₂, hf', -, hs⟩ := h.fetch (d := d) (c := c) _
    rw [hf] at hf'
    cases hf'
    exact ih hs

/-- A page that leads on and takes nothing from the supply leaves a session that is stuck. -/
lemma stuck_of_supply {page : Page c.Item} (h : (c.pages d).fetch pt s = (.ok page, s₁))
    (hm : page.nextToken.isStart = false) (hs : s.supply ≤ s₁.supply) : Stuck d c s₁ := by
  obtain ⟨t, a, es, ht, hl, ha, hp, hstray, rfl⟩ := fetch_ok h
  have h1 := d.client.supply_token_le s
  have h2 := (d.client.token s).2.supply_spend_le (c.request d t pt) es
  have heq : ((d.client.token s).2.spend (c.request d t pt) es).supply =
      (d.client.token s).2.supply := by omega
  have hq : s.transport.queue = [] := by simpa using Session.queue_of_supply_spend heq
  have hsrc := Client.source_of_supply_token (c := d.client) (s := s) (by omega)
  have hlead : page.Leads := by
    rcases page.leads_or_strays_or_last with h | h | h
    · exact h
    · exact absurd h hstray
    · simp [Page.nextToken_of_last h] at hm
  refine ⟨by simp [hq], ⟨a, page, ?_, hp, hlead⟩, t, ?_⟩
  · simpa [Transport.next?, hq] using ha
  · exact (Client.supplies_of_source ht hl hsrc).congr (by simp [hsrc])

/-- If a loop goes on after a page and ends, that page took something from the supply. -/
lemma supply_lt_of_drains {page : Page c.Item} {before : List c.Item} {n : ℕ}
    {r : Except Error (Drained c.Item)} {s₂ : Session}
    (h : (c.pages d).fetch pt s = (.ok page, s₁)) (hm : page.nextToken.isStart = false)
    (hd : (c.pages d).Drains page.nextToken before n s₁ r s₂) : s₁.supply < s.supply :=
  Nat.lt_of_not_le fun hle => (stuck_of_supply h hm hle).not_drains hd

/-- **The budget suffices**: what the loop comes to, a drain comes to whose budget is the supply. -/
lemma drainFrom_of_drains {before : List c.Item} {n budget : ℕ} {r : Except Error (Drained c.Item)}
    (h : (c.pages d).Drains pt before n s r s₁) (hb : s.supply ≤ budget) :
    (c.pages d).drainFrom budget pt before n s = (r, s₁) := by
  induction h generalizing budget with
  | failed hf => exact Paged.drainFrom_of_error hf budget
  | last hf hl => exact Paged.drainFrom_of_last hf hl budget
  | more hf hm hd ih =>
    -- the loop ends after this page, so the page took something, and so may the budget
    have hlt := supply_lt_of_drains hf hm hd
    obtain ⟨b, rfl⟩ : ∃ b, budget = b + 1 := ⟨budget - 1, by omega⟩
    rw [Paged.drainFrom_of_more hf hm, ih (by omega)]

/-- **A drain comes to what its loop comes to.** -/
theorem drain_of_drains {r : Except Error (Drained c.Item)}
    (h : (c.pages d).Drains .start [] 0 s r s₁) : (c.pages d).drain s = (r, s₁) :=
  drainFrom_of_drains h (Nat.le_refl _)

lemma Drains.ne_endless {before : List c.Item} {n : ℕ} {r : Except Error (Drained c.Item)}
    (h : (c.pages d).Drains pt before n s r s₁) (l : Listing) :
    r ≠ .error (.pagination (.endless l.name)) := by
  induction h with
  | failed hf => simpa using fetch_error hf l
  | last => simp
  | more _ _ _ ih => exact ih

/-- **A drain reports an endless listing exactly where its loop does not end.** -/
theorem ends_iff : (c.pages d).Ends s ↔
    ((c.pages d).drain s).1 ≠ .error (.pagination (.endless c.listing.name)) := by
  constructor
  · rintro ⟨r, s₁, h⟩
    rw [drain_of_drains h]
    exact Drains.ne_endless h _
  · intro h
    have hname : (c.pages d).listing = c.listing := by cases c <;> rfl
    exact ⟨_, _, Paged.drains_of_drainFrom rfl (by rw [hname]; exact h)⟩

end Catalog

end TeamSync
