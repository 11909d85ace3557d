import TeamSync.Proofs.Calls
import TeamSync.Proofs.Chain
import TeamSync.Proofs.Manner

/-!
The calls that a command makes. It makes none, one, or those of a drain: one for the first page and
one for each page that is announced by the one before it. All calls but the last get what they need,
and the last decides what the command comes to.
-/

namespace TeamSync

/-! ### The calls of a drain -/

namespace Catalog

/-- The call for the page of a token. -/
def call (d : Directory) (c : Catalog) (pt : PageToken) : Call := ⟨c.op pt, c.body d pt⟩

/-- The calls for a page and for those after it, each but the first for a page announced by the one
before it. -/
def calls (d : Directory) (c : Catalog) (pt : PageToken) (ps : List (Page c.Item)) : List Call :=
  (pt :: ps.map Page.nextToken).map (c.call d)

/-- A drain that goes on from a token meets some pages that lead on, one call for each, and makes
one more call. That call fails for want of a token, or its answer decides the rest. -/
structure Trail (d : Directory) (c : Catalog) (pt : PageToken) (s : Session)
    (ps : List (Page c.Item)) (r : Except Error (Drained c.Item)) (s₁ : Session) : Prop where
  chain : Chain d c s.transport ps
  tokens : ∀ i < ps.length, ∃ t, sendable (d.client.tokenAt s i) = .ok t
  session : s₁.Alike (d.client.makeAll s (c.calls d pt ps))
  answered : ∀ t, sendable (d.client.tokenAt s ps.length) = .ok t →
    Carries (fun all l => all.rateLimit = l) (d.client.limit? (s.transport.answer? ps.length)) r
  refused : ∀ e, sendable (d.client.tokenAt s ps.length) = .error e →
    ∃ op, r = .error (.within op e)

variable {d : Directory} {c : Catalog} {pt : PageToken} {s : Session}

lemma fetch_alike_make (pt : PageToken) (s : Session) :
    ((c.pages d).fetch pt s).2.Alike (d.client.make s (c.call d pt)) := by
  rw [fetch_eq, Client.roundTrip_eq_visit]
  exact Client.visit_alike_make _ s

lemma fetch_of_error (pt : PageToken) {e : Error} (h : sendable (d.client.token s).1 = .error e) :
    ((c.pages d).fetch pt s).1 = .error (.within (c.op pt) e) := by
  rw [fetch_eq, Client.roundTrip_eq_visit, Client.visit_of_error h]
  rfl

lemma fetch_of_ok {t : String} (h : sendable (d.client.token s).1 = .ok t) :
    ((c.pages d).fetch pt s).1 = c.read d pt s.transport.next? := by
  rw [fetch_eq, Client.roundTrip_eq_visit, Client.visit_of_ok h]
  rfl

/-- A drain that fails to get a page makes the call for it and no other. -/
lemma Trail.of_error {s₁ : Session} {e : Error} (h : (c.pages d).fetch pt s = (.error e, s₁)) :
    Trail d c pt s [] (.error e) s₁ where
  chain := chain_nil _
  tokens := by simp
  session := by
    have hf := fetch_alike_make (d := d) (c := c) pt s
    rw [h] at hf
    exact hf
  answered t ht := by
    have hr := c.carries_read d pt s.transport.next?
    rw [← fetch_of_ok ht, h] at hr
    rw [List.length_nil, Transport.answer?_zero]
    exact hr
  refused e' he := by
    have hf := fetch_of_error (c := c) pt he
    rw [h] at hf
    cases hf
    exact ⟨_, rfl⟩

/-- A drain that has all it wants with a page makes the call for it and no other. -/
lemma Trail.of_ok {p : Page c.Item} {s₁ : Session} {r : Except Error (Drained c.Item)}
    (h : (c.pages d).fetch pt s = (.ok p, s₁))
    (hr : Carries (fun all l => all.rateLimit = l) (some p.rateLimit) r) :
    Trail d c pt s [] r s₁ where
  chain := chain_nil _
  tokens := by simp
  session := by
    have hf := fetch_alike_make (d := d) (c := c) pt s
    rw [h] at hf
    exact hf
  answered t ht := by
    have hp := c.carries_read d pt s.transport.next?
    rw [← fetch_of_ok ht, h] at hp
    obtain ⟨l, hl, rfl⟩ := hp
    rw [List.length_nil, Transport.answer?_zero, hl]
    exact hr
  refused e he := by
    have hf := fetch_of_error (c := c) pt he
    rw [h] at hf
    cases hf

/-- A page that announces another has taken one token and one answer, and leads on to the pages
that follow it. -/
lemma fetch_more {p : Page c.Item} {s₁ : Session} (h : (c.pages d).fetch pt s = (.ok p, s₁))
    (hm : p.nextToken.isStart = false) :
    (∃ t, sendable (d.client.tokenAt s 0) = .ok t) ∧
      (∀ {ps}, Chain d c s₁.transport ps → Chain d c s.transport (p :: ps)) ∧
      (∀ i, d.client.tokenAt s₁ i = d.client.tokenAt s (i + 1)) ∧
      ∀ i, s₁.transport.answer? i = s.transport.answer? (i + 1) := by
  obtain ⟨t, a, es, htok, hl, ha, hp, hstray, rfl⟩ := fetch_ok h
  have hlead : p.Leads := by
    rcases p.leads_or_strays_or_last with h | h | h
    · exact h
    · exact absurd h hstray
    · simp [Page.nextToken_of_last h] at hm
  have htr : ((d.client.token s).2.spend (c.request d t pt) es).transport =
      s.transport.after [c.request d t pt] := by
    rw [Session.spend_transport, Client.token_transport]
  refine ⟨⟨t, sendable_eq_ok.mpr ⟨htok, hl⟩⟩, fun hc => ?_,
    fun i => d.client.tokenAt_congr (by simp) i, fun i => ?_⟩
  · rw [htr] at hc
    exact (chain_cons_iff _).mpr ⟨⟨a, ha, hp, hlead⟩, hc⟩
  · rw [htr, Transport.answer?_after, List.length_singleton, Nat.add_comm]

/-- A drain that goes on after a page makes the call for it, and then those of the rest. -/
lemma Trail.cons {p : Page c.Item} {ps : List (Page c.Item)} {r : Except Error (Drained c.Item)}
    {s₁ s₂ : Session} (h : (c.pages d).fetch pt s = (.ok p, s₁)) (hm : p.nextToken.isStart = false)
    (ht : Trail d c p.nextToken s₁ ps r s₂) : Trail d c pt s (p :: ps) r s₂ := by
  obtain ⟨⟨t, hsend⟩, hcons, hat, hans⟩ := fetch_more h hm
  refine ⟨hcons ht.chain, ?tokens, ?session, ?answered, ?refused⟩
  case tokens =>
    intro i hi
    rcases i with _ | i
    · exact ⟨t, hsend⟩
    · rw [← hat]
      exact ht.tokens i (by simpa using hi)
  case session =>
    have hf := fetch_alike_make (d := d) (c := c) pt s
    rw [h] at hf
    have hrest := Client.makeAll_alike (c := d.client) hf (c.calls d p.nextToken ps)
    exact ht.session.trans hrest
  case answered =>
    intro u hu
    rw [List.length_cons, ← hans]
    exact ht.answered u (by rw [hat]; exact hu)
  case refused =>
    intro e he
    exact ht.refused e (by rw [hat]; exact he)

/-- A drain makes the call for its first page, and more if that page is not the last. -/
lemma exists_trail_of_more {budget : ℕ} {before : List c.Item} {n : ℕ}
    (hmore : ∀ p s₁, (c.pages d).fetch pt s = (.ok p, s₁) → p.nextToken.isStart = false →
      ∃ ps, Trail d c pt s ps ((c.pages d).drainFrom budget pt before n s).1
        ((c.pages d).drainFrom budget pt before n s).2) :
    ∃ ps, Trail d c pt s ps ((c.pages d).drainFrom budget pt before n s).1
      ((c.pages d).drainFrom budget pt before n s).2 := by
  rcases hf : (c.pages d).fetch pt s with ⟨e | p, s₁⟩
  · rw [Paged.drainFrom_of_error hf]
    exact ⟨[], .of_error hf⟩
  rcases hm : p.nextToken.isStart with _ | _
  · exact hmore p s₁ hf hm
  · rw [Paged.drainFrom_of_last hf hm]
    exact ⟨[], .of_ok hf ⟨_, rfl, rfl⟩⟩

/-- **The calls of a drain**, by induction on the budget. -/
theorem exists_trail (budget : ℕ) (pt : PageToken) (before : List c.Item) (n : ℕ) (s : Session) :
    ∃ ps, Trail d c pt s ps ((c.pages d).drainFrom budget pt before n s).1
      ((c.pages d).drainFrom budget pt before n s).2 := by
  induction budget generalizing pt before n s with
  | zero =>
    refine exists_trail_of_more fun p s₁ hf hm => ?_
    rw [Paged.drainFrom_zero_of_more hf hm]
    exact ⟨[], .of_ok hf (carries_error rfl)⟩
  | succ budget ih =>
    refine exists_trail_of_more fun p s₁ hf hm => ?_
    obtain ⟨ps, ht⟩ := ih p.nextToken (before ++ p.items) (n + 1) s₁
    rw [Paged.drainFrom_of_more hf hm]
    exact ⟨p :: ps, ht.cons hf hm⟩

/-- The calls of a drain carry bodies that are parsed as objects. -/
lemma readable_calls (d : Directory) (ps : List (Page Catalog.members.Item)) :
    ∀ x ∈ Catalog.members.calls d .start ps, x.body.Readable := by
  intro x hx
  obtain ⟨pt, -, rfl⟩ := List.mem_map.mp hx
  exact (Feed.users none).readable_body d pt

lemma length_calls (d : Directory) (c : Catalog) (pt : PageToken) (ps : List (Page c.Item)) :
    (c.calls d pt ps).length = ps.length + 1 := by
  simp [calls]

end Catalog

/-! ### The calls of a command -/

namespace Connector

/-- What a command calls: nothing if it is idle, and otherwise one operation, or the first page of
all members and each page that is announced by the one before it. -/
inductive Makes (k : Connector) (s : Session) (cmd : Command) : List Call → Prop where
  | nothing (hi : cmd.Idle) : Makes k s cmd []
  | one (hi : ¬cmd.Idle) (hl : ¬cmd.ListsRoles) (x : Call) : Makes k s cmd [x]
  | pages (hi : ¬cmd.Idle) (hl : cmd.ListsRoles) {ps : List (Page Catalog.members.Item)}
      (hc : Catalog.members.Chain k.directory s.transport ps) :
      Makes k s cmd (Catalog.members.calls k.directory .start ps)

/-- A command makes some calls, of which all but the last get a token that can be sent. The answer
to the last one says what the command comes to; without a token for it the command fails for that
reason. -/
structure Trail (k : Connector) (s : Session) (cmd : Command) (xs : List Call) : Prop where
  makes : k.Makes s cmd xs
  readable : ∀ x ∈ xs, x.body.Readable
  session : (k.perform cmd s).2.Alike (k.directory.client.makeAll s xs)
  tokens : ∀ i, i + 1 < xs.length → ∃ t, sendable (k.directory.client.tokenAt s i) = .ok t
  idle : xs = [] → cmd.Contacts → ∃ cause, (k.perform cmd s).1 = .error (.argument cause)
  answered : ∀ i t, i + 1 = xs.length → sendable (k.directory.client.tokenAt s i) = .ok t →
    Carries Reply.Reports (k.directory.client.limit? (s.transport.answer? i)) (k.perform cmd s).1
  refused : ∀ i e, i + 1 = xs.length → sendable (k.directory.client.tokenAt s i) = .error e →
    e.rateLimit? = none → ∃ e', (k.perform cmd s).1 = .error e' ∧ e'.root = e.root

variable {k : Connector} {s : Session} {cmd : Command}

/-- A command that makes one visit makes one call. -/
lemma Trail.of_visits (hi : ¬cmd.Idle) (hl : ¬cmd.ListsRoles) {op : Operation} {body : Json.Value}
    (hb : body.Readable) (h : k.directory.client.Visits op body Reply.Reports (k.perform cmd)) :
    k.Trail s cmd [⟨op, body⟩] := by
  obtain ⟨f, hf, hr⟩ := h
  refine ⟨.one hi hl _, by simpa using hb, ?_, by simp, by simp, ?answered, ?refused⟩
  · rw [hf]
    exact Client.visit_alike_make f s
  case answered =>
    intro i t hlen ht
    obtain rfl : i = 0 := by simpa using hlen
    rw [hf, Client.visit_of_ok ht, Transport.answer?_zero]
    exact hr.answered _
  case refused =>
    intro i e hlen ht he
    obtain rfl : i = 0 := by simpa using hlen
    rw [hf, Client.visit_of_error ht]
    exact hr.refused e he

/-- A command that goes through all members makes the calls of a drain. -/
lemma Trail.of_drain (hi : ¬cmd.Idle) (hl : cmd.ListsRoles)
    {f : Drained Member → Except Error Reply × List Event}
    (h : k.perform cmd = k.directory.members.drain.finish (Step.passing f))
    (hf : ∀ all, ∃ reply, (f all).1 = .ok reply ∧ reply.Reports all.rateLimit) :
    ∃ xs, k.Trail s cmd xs := by
  obtain ⟨ps, ht⟩ :=
    Catalog.exists_trail (d := k.directory) (c := .members) s.supply .start [] 0 s
  have hands : Hands (fun all l => all.rateLimit = l) Reply.Reports (Step.passing f) :=
    hands_passing fun all l hall => by
      obtain ⟨reply, hr, hrep⟩ := hf all
      rw [hr, ← hall]
      exact ⟨_, rfl, hrep⟩
  have hlen := Catalog.members.length_calls k.directory .start ps
  refine ⟨_, .pages hi hl ht.chain, Catalog.readable_calls k.directory ps, ?session, ?tokens,
    ?idle, ?answered, ?refused⟩
  case session =>
    rw [h]
    exact ⟨ht.session.transport, ht.session.source, ht.session.asked⟩
  case tokens =>
    intro i hlt
    rw [hlen] at hlt
    exact ht.tokens i (by omega)
  case idle =>
    intro hnil
    rw [hnil] at hlen
    cases hlen
  case answered =>
    intro i t hlast hsend
    obtain rfl : i = ps.length := by omega
    rw [h]
    exact hands.carries _ _ (ht.answered t hsend)
  case refused =>
    intro i e hlast hsend he
    obtain rfl : i = ps.length := by omega
    obtain ⟨op, hop⟩ := ht.refused e hsend
    have hres : (k.directory.members.drain s).1 = .error (.within op e) := hop
    rw [h, Step.finish, hres]
    exact ⟨.within op e, rfl, rfl⟩

/-- **Every command makes some calls**, and the last of them decides what it comes to. -/
theorem exists_trail (k : Connector) (cmd : Command) (s : Session) : ∃ xs, k.Trail s cmd xs := by
  cases k.manner cmd with
  | idle hi r es h hr =>
    have hp : k.perform cmd s = (r, s.noting es) := by rw [h]; rfl
    refine ⟨[], .nothing hi, by simp, ?_, by simp, fun _ hc => ?_, by simp, by simp⟩
    · rw [hp]
      exact ⟨rfl, rfl, rfl⟩
    · rw [hp]
      exact hr hc
  | once hi hl op hb h => exact ⟨_, .of_visits hi hl hb h⟩
  | through hi hl h hf => exact Trail.of_drain hi hl h hf

end Connector

end TeamSync
