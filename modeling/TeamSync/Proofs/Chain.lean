import TeamSync.Proofs.Drain
import TeamSync.Sample

/-!
What a drain does with the answers it meets: it goes along the pages that lead on, one request for
each, and what it makes of the first other answer is its result.
-/

namespace TeamSync

namespace Page

variable {α : Type}

/-- The token after some pages, when they were begun with a token. -/
def tokenAfter (pt : PageToken) (ps : List (Page α)) : PageToken :=
  ps.foldl (fun _ p => p.nextToken) pt

@[simp] lemma tokenAfter_nil (pt : PageToken) : tokenAfter pt ([] : List (Page α)) = pt := rfl

@[simp] lemma tokenAfter_cons (pt : PageToken) (p : Page α) (ps : List (Page α)) :
    tokenAfter pt (p :: ps) = tokenAfter p.nextToken ps := rfl

/-- The items of some pages, in order. -/
def gathered (ps : List (Page α)) : List α := ps.flatMap (·.items)

@[simp] lemma gathered_nil : gathered ([] : List (Page α)) = [] := rfl

@[simp] lemma gathered_cons (p : Page α) (ps : List (Page α)) :
    gathered (p :: ps) = p.items ++ gathered ps := rfl

end Page

namespace Catalog

variable {d : Directory} {c : Catalog} {s : Session} {ts : ℕ → String}

/-- The first answers to come hold some pages, and each of these leads on. -/
def Chain (d : Directory) (c : Catalog) (t : Transport) (ps : List (Page c.Item)) : Prop :=
  ∀ k p, ps[k]? = some p → ∃ a, t.answer? k = some a ∧ c.page? d a = some p ∧ p.Leads

lemma chain_nil (t : Transport) : Chain d c t [] := fun k p h => by simp at h

lemma chain_cons_iff {t : Transport} {p : Page c.Item} {ps : List (Page c.Item)}
    (r : Http.Request) :
    Chain d c t (p :: ps) ↔
      (∃ a, t.next? = some a ∧ c.page? d a = some p ∧ p.Leads) ∧ Chain d c (t.after [r]) ps := by
  constructor
  · intro h
    refine ⟨by simpa using h 0 p rfl, fun k q hq => ?_⟩
    rw [Transport.answer?_after, List.length_singleton, Nat.add_comm]
    exact h (k + 1) q (by simpa using hq)
  · rintro ⟨h0, h⟩ k q hq
    rcases k with _ | k
    · obtain rfl : p = q := by simpa using hq
      simpa using h0
    · have := h k q (by simpa using hq)
      rwa [Transport.answer?_after, List.length_singleton, Nat.add_comm] at this

lemma Chain.map_nextToken {t : Transport} {ps : List (Page c.Item)} (h : Chain d c t ps) :
    ps.map Page.nextToken = ps.map fun p => ⟨p.cursor⟩ := by
  refine List.map_congr_left fun p hp => ?_
  obtain ⟨k, hk⟩ := List.getElem?_of_mem hp
  obtain ⟨_, -, -, hl⟩ := h k p hk
  exact hl.nextToken

/-- The page of a token takes one answer, and one access token from a supply. -/
lemma fetch_of_supplies (hts : d.client.Supplies s ts) (pt : PageToken) :
    ∃ s₁, (c.pages d).fetch pt s = (c.read d pt s.transport.next?, s₁) ∧
      s₁.transport = s.transport.after [c.request d (ts 0) pt] ∧
      d.client.Supplies s₁ fun k => ts (k + 1) :=
  ⟨_, fetch_apply d c pt hts.token hts.legal, by simp [Session.spend_transport],
    hts.tail.congr (by simp)⟩

/-- The loop goes along a chain, and its result is what it makes of the answer after it. -/
lemma drains_of_chain {ps : List (Page c.Item)} (hts : d.client.Supplies s ts)
    (hc : Chain d c s.transport ps) (pt : PageToken) (before : List c.Item) (n : ℕ)
    (hend : ∀ p, c.read d (Page.tokenAfter pt ps) (s.transport.answer? ps.length) = .ok p →
      p.nextToken.isStart = true) :
    ∃ s₁, (c.pages d).Drains pt before n s
      ((c.read d (Page.tokenAfter pt ps) (s.transport.answer? ps.length)).map fun p =>
        ⟨before ++ Page.gathered (ps ++ [p]), n + ps.length + 1, p.rateLimit⟩) s₁ ∧
      s₁.transport = s.transport.after (c.requests d ts (pt :: ps.map Page.nextToken)) := by
  induction ps generalizing pt before n s ts with
  | nil =>
    obtain ⟨s₁, hf, hs₁, -⟩ := fetch_of_supplies hts pt
    simp only [Page.tokenAfter_nil, List.length_nil, Transport.answer?_zero] at hend ⊢
    rcases hr : c.read d pt s.transport.next? with e | p
    · rw [hr] at hf
      exact ⟨s₁, .failed hf, by simpa using hs₁⟩
    · rw [hr] at hf
      have hd : (c.pages d).Drains pt before n s
          (.ok ⟨before ++ p.items, n + 1, p.rateLimit⟩) s₁ := .last hf (hend p hr)
      exact ⟨s₁, by simpa [Except.map] using hd, by simpa using hs₁⟩
  | cons p ps ih =>
    obtain ⟨⟨a, ha, hp, hlead⟩, hc'⟩ := (chain_cons_iff (c.request d (ts 0) pt)).mp hc
    obtain ⟨s₁, hf, hs₁, hts₁⟩ := fetch_of_supplies hts pt
    rw [(read_ok_iff d c).mpr ⟨a, ha, hp, hlead.not_strays⟩] at hf
    have hans : s₁.transport.answer? ps.length = s.transport.answer? (p :: ps).length := by
      rw [hs₁, Transport.answer?_after, List.length_singleton, List.length_cons, Nat.add_comm]
    obtain ⟨s₂, hd, hs₂⟩ := ih hts₁ (by rw [hs₁]; exact hc') p.nextToken (before ++ p.items) (n + 1)
      (by rw [hans]; exact hend)
    refine ⟨s₂, .more hf hlead.isStart_nextToken ?_, ?_⟩
    · rw [hans] at hd
      simpa [Nat.add_assoc, Nat.add_comm 1] using hd
    · rw [hs₂, hs₁, Transport.after_after]
      simp

/-- If the standing answer does not lead on, the answers to come are a chain no longer than the
queue and then one that does not lead on either. -/
lemma exists_chain (d : Directory) (c : Catalog) (t : Transport)
    (hst : ∀ a p, t.standing = some a → c.page? d a = some p → ¬p.Leads) :
    ∃ ps, Chain d c t ps ∧ ps.length ≤ t.queue.length ∧
      ∀ a p, t.answer? ps.length = some a → c.page? d a = some p → ¬p.Leads := by
  obtain ⟨q, st, sent⟩ := t
  induction q with
  | nil =>
    refine ⟨[], chain_nil _, by simp, fun a p ha => hst a p ?_⟩
    simpa [Transport.next?] using ha
  | cons b q ih =>
    by_cases hb : ∃ p, c.page? d b = some p ∧ p.Leads
    · obtain ⟨p, hp, hlead⟩ := hb
      obtain ⟨ps, hc, hlen, hend⟩ := ih hst
      refine ⟨p :: ps, fun k r hr => ?_, by simpa using hlen,
        by simpa [Transport.answer?] using hend⟩
      rcases k with _ | k
      · obtain rfl : p = r := by simpa using hr
        exact ⟨b, rfl, hp, hlead⟩
      · simpa [Transport.answer?] using hc k r (by simpa using hr)
    · refine ⟨[], chain_nil _, by simp, fun a p ha hp hlead => hb ⟨p, ?_, hlead⟩⟩
      obtain rfl : b = a := by simpa [Transport.next?] using ha
      exact hp

/-- A chain and a last page make a loop that has all their items. -/
lemma drains_of_last {ps : List (Page c.Item)} {p : Page c.Item} {a : Answer}
    (hts : d.client.Supplies s ts) (hc : Chain d c s.transport ps)
    (ha : s.transport.answer? ps.length = some a) (hp : c.page? d a = some p)
    (hlast : p.hasMore = false) :
    ∃ s₁, (c.pages d).Drains .start [] 0 s
      (.ok ⟨Page.gathered (ps ++ [p]), ps.length + 1, p.rateLimit⟩) s₁ ∧
      s₁.transport =
        s.transport.after (c.requests d ts (.start :: ps.map fun q => ⟨q.cursor⟩)) := by
  have hr : c.read d (Page.tokenAfter .start ps) (s.transport.answer? ps.length) = .ok p :=
    (read_ok_iff d c).mpr ⟨a, ha, hp, Page.not_strays_of_last hlast⟩
  obtain ⟨s₁, hd, hs₁⟩ := drains_of_chain hts hc .start [] 0 fun q hq => by
    rw [hr] at hq
    cases hq; simp [Page.nextToken_of_last hlast]
  rw [hr] at hd
  rw [← hc.map_nextToken]
  exact ⟨s₁, by simpa [Except.map] using hd, hs₁⟩

/-- A chain and an answer that is refused make a loop that fails. -/
lemma drains_of_refuses {ps : List (Page c.Item)} {e : Error}
    (hts : d.client.Supplies s ts) (hc : Chain d c s.transport ps)
    (he : c.Refuses d (Page.tokenAfter .start ps) (s.transport.answer? ps.length) e) :
    ∃ s₁, (c.pages d).Drains .start [] 0 s (.error e) s₁ ∧
      s₁.transport =
        s.transport.after (c.requests d ts (.start :: ps.map fun q => ⟨q.cursor⟩)) := by
  have hr := (read_error_iff d c).mpr he
  obtain ⟨s₁, hd, hs₁⟩ := drains_of_chain hts hc .start [] 0 fun q hq => by
    rw [hr] at hq
    cases hq
  rw [hr] at hd
  rw [← hc.map_nextToken]
  exact ⟨s₁, hd, hs₁⟩

/-- **A drain follows the cursors.** With usable access tokens, and a standing answer that does not
lead on, its loop ends after at most one request more than there are answers in the queue. Where
the answers it meets are pages that lead on and then a last one, it sends the request of the start
and those of the cursors, in this order, and has the items of all pages; where the answer after
such pages is refused, it fails with what that call failed with. In both cases no further answer is
taken. The request of a cursor goes where its listing is carried on, and its body says the cursor
and nothing else. -/
theorem drain_follows_cursors (d : Directory) (c : Catalog) {s : Session} {ts : ℕ → String}
    (hts : d.client.Supplies s ts)
    (hst : ∀ a p, s.transport.standing = some a → c.page? d a = some p → ¬p.Leads) :
    (∃ rs, rs.length ≤ s.transport.queue.length + 1 ∧
      (c.pages d).Drains .start [] 0 s ((c.pages d).drain s).1 ((c.pages d).drain s).2 ∧
      ((c.pages d).drain s).2.transport = s.transport.after rs) ∧
    (∀ ps p a, Chain d c s.transport ps → s.transport.answer? ps.length = some a →
      c.page? d a = some p → p.hasMore = false →
      ((c.pages d).drain s).1 = .ok ⟨Page.gathered (ps ++ [p]), ps.length + 1, p.rateLimit⟩ ∧
      ((c.pages d).drain s).2.transport =
        s.transport.after (c.requests d ts (.start :: ps.map fun q => ⟨q.cursor⟩))) ∧
    (∀ ps e, Chain d c s.transport ps →
      c.Refuses d (Page.tokenAfter .start ps) (s.transport.answer? ps.length) e →
      ((c.pages d).drain s).1 = .error e ∧
      ((c.pages d).drain s).2.transport =
        s.transport.after (c.requests d ts (.start :: ps.map fun q => ⟨q.cursor⟩))) ∧
    (∀ token cursor, cursor ≠ "" →
      (c.request d token ⟨cursor⟩).url = d.client.endpoints.url (.list c.listing .continuing) ∧
      ∃ text, (c.request d token ⟨cursor⟩).body = some text ∧
        Json.parse (Utf8.ofString text) = .ok (.object [("cursor", .string cursor)])) := by
  refine ⟨?_, fun ps p a hc ha hp hlast => ?_, fun ps e hc he => ?_,
    fun token cursor => c.request_of_cursor d token⟩
  · obtain ⟨ps, hc, hlen, hend⟩ := exists_chain d c s.transport hst
    have hloop : ∃ r s₁, (c.pages d).Drains .start [] 0 s r s₁ ∧ s₁.transport =
        s.transport.after (c.requests d ts (.start :: ps.map fun q => ⟨q.cursor⟩)) := by
      rcases c.page_or_refuses d (Page.tokenAfter .start ps) (s.transport.answer? ps.length) with
        ⟨a, p, ha, hp, hstray⟩ | ⟨e, he⟩
      · have hlast : p.hasMore = false := by
          rcases p.leads_or_strays_or_last with h | h | h
          · exact absurd h (hend a p ha hp)
          · exact absurd h hstray
          · exact h
        exact ⟨_, drains_of_last hts hc ha hp hlast⟩
      · exact ⟨_, drains_of_refuses hts hc he⟩
    obtain ⟨r, s₁, hd, hs₁⟩ := hloop
    rw [drain_of_drains hd]
    exact ⟨_, by simpa using hlen, hd, hs₁⟩
  · obtain ⟨s₁, hd, hs₁⟩ := drains_of_last hts hc ha hp hlast
    rw [drain_of_drains hd]
    exact ⟨rfl, hs₁⟩
  · obtain ⟨s₁, hd, hs₁⟩ := drains_of_refuses hts hc he
    rw [drain_of_drains hd]
    exact ⟨rfl, hs₁⟩

end Catalog

/-! ### A sample -/

namespace Sample

/-- A directory with pages of at most two entries. -/
def directory : Directory := ⟨client, .standard, .clamp 2⟩

/-- A session with some answers in its queue and no standing answer. -/
def session (as : List Answer) : Session := .start ⟨as, none, []⟩

/-- The answer to a listing of groups that holds one group. -/
def groupAnswer (id cursor : String) (hasMore : Bool) : Answer :=
  .response 200 [] (Utf8.ofString
    (groupsPage [.object [("group_id", .string id)]] cursor hasMore).toText)

/-- The page that such an answer holds. -/
def groupPage (id cursor : String) (hasMore : Bool) : Page Group :=
  ⟨[⟨id, "", "", 0⟩], cursor, hasMore, .unreported⟩

/-- Two pages with the same cursor, a last page with a cursor too, and an answer too many. -/
def groupAnswers : List Answer :=
  [groupAnswer "g:1" "c" true, groupAnswer "g:2" "c" true, groupAnswer "g:3" "d" false,
    .failure .timeout]

lemma page?_groupAnswers :
    (groupAnswer "g:1" "c" true).page? PageBody.groups directory.client.now =
        some (groupPage "g:1" "c" true) ∧
      (groupAnswer "g:2" "c" true).page? PageBody.groups directory.client.now =
        some (groupPage "g:2" "c" true) ∧
      (groupAnswer "g:3" "d" false).page? PageBody.groups directory.client.now =
        some (groupPage "g:3" "d" false) := by
  refine ⟨?_, ?_, ?_⟩ <;> decide +kernel

lemma chain_groupAnswers : Catalog.Chain directory .groups (session groupAnswers).transport
    [groupPage "g:1" "c" true, groupPage "g:2" "c" true] := by
  obtain ⟨h1, h2, -⟩ := page?_groupAnswers
  let r := Catalog.groups.request directory "sl.token" .start
  exact (Catalog.chain_cons_iff r).mpr ⟨⟨_, rfl, h1, rfl, by decide⟩,
    (Catalog.chain_cons_iff r).mpr ⟨⟨_, rfl, h2, rfl, by decide⟩, Catalog.chain_nil _⟩⟩

end Sample

open Sample in
theorem Catalog.drain_follows_cursors_groups :
    directory.client.Supplies (session groupAnswers) (fun _ => "sl.token") ∧
      (∀ a p, (session groupAnswers).transport.standing = some a →
        Catalog.groups.page? directory a = some p → ¬p.Leads) ∧
      ((Catalog.groups.pages directory).drain (session groupAnswers)).1 =
        .ok ⟨[⟨"g:1", "", "", 0⟩, ⟨"g:2", "", "", 0⟩,
          ⟨"g:3", "", "", 0⟩], 3, .unreported⟩ ∧
      ((Catalog.groups.pages directory).drain (session groupAnswers)).2.transport.queue =
        [.failure .timeout] ∧
      ((Catalog.groups.pages directory).drain (session groupAnswers)).2.transport.sent.map
          (fun r => (r.url, r.body)) =
        [("https://api.dropboxapi.com/2/team/groups/list", some "\x7b\"limit\":2\x7d"),
          ("https://api.dropboxapi.com/2/team/groups/list/continue",
            some "\x7b\"cursor\":\"c\"\x7d"),
          ("https://api.dropboxapi.com/2/team/groups/list/continue",
            some "\x7b\"cursor\":\"c\"\x7d")] := by
  obtain ⟨-, -, h3⟩ := page?_groupAnswers
  have hst : ∀ a p, (session groupAnswers).transport.standing = some a →
      Catalog.groups.page? directory a = some p → ¬p.Leads := by
    intro a p h
    cases h
  have hc := chain_groupAnswers
  have h := (drain_follows_cursors directory .groups (supplies _) hst).2.1 _ _ _ hc rfl h3 rfl
  exact ⟨supplies _, hst, h.1, by rw [h.2]; rfl, by rw [h.2]; decide +kernel⟩

end TeamSync
