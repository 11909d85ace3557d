import Mathlib.Tactic.ByContra
import TeamSync.Proofs.HostPass

/-!
A pass that goes on after failures. A failed call leaves the token of the last good page as it
was, so asking again with it repeats the request, and no page is lost or brought twice.
-/

namespace TeamSync

namespace Pass

variable {α : Type} {list : PageToken → Step (SyncPage α)} {pt : PageToken} {p : Pass α}
  {s s₁ : Session}

lemma persist_of_error {e : Error} (h : list pt s = (.error e, s₁)) (calls : ℕ) :
    persist list (calls + 1) pt p s = persist list calls pt { p with failed := some e } s₁ := by
  rw [persist, Step.bind_of_ok (Step.attempt_apply ..), h]

lemma persist_of_last {page : SyncPage α} (h : list pt s = (.ok page, s₁))
    (hl : page.next.isStart = true) (calls : ℕ) :
    persist list (calls + 1) pt p s = (.ok { p.add page with failed := none }, s₁) := by
  rw [persist, Step.bind_of_ok (Step.attempt_apply ..), h]
  simp [hl]

lemma persist_of_more {page : SyncPage α} (h : list pt s = (.ok page, s₁))
    (hm : page.next.isStart = false) (calls : ℕ) :
    persist list (calls + 1) pt p s =
      persist list calls page.next { p.add page with failed := none } s₁ := by
  rw [persist, Step.bind_of_ok (Step.attempt_apply ..), h]
  simp [hm]

end Pass

namespace Catalog

variable (d : Directory) (c : Catalog)

/-- An answer that a call is refused with, whatever its token: a failure of the transport, a status
that is no success, a body that is no page, a page that announces another without a cursor. -/
def Fails (a : Answer) : Prop := ∀ pt, ∃ e, c.Refuses d pt (some a) e

lemma strays_of_refuses {pt : PageToken} {a : Answer} {e : Error}
    (h : c.Refuses d pt (some a) e) {p : Page c.Item} (hp : c.page? d a = some p) : p.Strays := by
  by_contra hs
  have hok : c.read d pt (some a) = .ok p := (c.read_ok_iff d).mpr ⟨a, rfl, hp, hs⟩
  rw [(c.read_error_iff d).mpr h] at hok
  cases hok

lemma fails_iff (a : Answer) : c.Fails d a ↔ ∀ p, c.page? d a = some p → p.Strays := by
  constructor
  · intro h p hp
    obtain ⟨e, he⟩ := h .start
    exact c.strays_of_refuses d he hp
  · intro h pt
    rcases c.page_or_refuses d pt (some a) with ⟨b, p, hb, hp, hs⟩ | he
    · cases hb
      exact absurd (h p hp) hs
    · exact he

/-- An answer that is refused once is always refused. -/
lemma fails_of_refuses (pt : PageToken) {a : Answer} {e : Error}
    (h : c.Refuses d pt (some a) e) : c.Fails d a :=
  (c.fails_iff d a).mpr fun _ hp => c.strays_of_refuses d h hp

/-- Answers that hold the pages of a whole listing, with failures before and between them. -/
inductive Interleaved : List Answer → List (Page c.Item) → Prop where
  | last {a : Answer} {p : Page c.Item} (h : c.page? d a = some p) (hl : p.hasMore = false) :
      Interleaved [a] [p]
  | page {a : Answer} {p : Page c.Item} {as : List Answer} {ps : List (Page c.Item)}
      (h : c.page? d a = some p) (hp : p.Leads) (hr : Interleaved as ps) :
      Interleaved (a :: as) (p :: ps)
  | failure {a : Answer} {as : List Answer} {ps : List (Page c.Item)}
      (h : c.Fails d a) (hr : Interleaved as ps) : Interleaved (a :: as) ps

/-- The tokens that a host asks with that gets some answers: each time the token of the last page
that it got. -/
def asked : PageToken → List Answer → List PageToken
  | _, [] => []
  | pt, a :: as =>
    pt :: asked (match c.read d pt (some a) with | .ok p => p.nextToken | .error _ => pt) as

variable {d c} {pt : PageToken} {a : Answer} {as : List Answer} {ps : List (Page c.Item)}

lemma asked_of_page {p : Page c.Item} (h : c.page? d a = some p) (hs : ¬p.Strays) :
    c.asked d pt (a :: as) = pt :: c.asked d p.nextToken as := by
  rw [asked, (c.read_ok_iff d).mpr ⟨a, rfl, h, hs⟩]

lemma asked_of_fails (h : c.Fails d a) : c.asked d pt (a :: as) = pt :: c.asked d pt as := by
  obtain ⟨e, he⟩ := h pt
  rw [asked, (c.read_error_iff d).mpr he]

/-- After a failure the same token is asked with again. -/
lemma asked_again (hi : c.Interleaved d as ps) (pt : PageToken) {i : ℕ}
    (h : as[i]? = some a) (ha : c.Fails d a) :
    ∃ qt, (c.asked d pt as)[i]? = some qt ∧ (c.asked d pt as)[i + 1]? = some qt := by
  induction hi generalizing pt i with
  | @last b p hb hl =>
    rcases i with _ | i
    · obtain rfl : b = a := by simpa using h
      exact absurd ((c.fails_iff d _).mp ha p hb) (Page.not_strays_of_last hl)
    · simp at h
  | @page b p as ps hb hp hr ih =>
    rw [asked_of_page hb hp.not_strays]
    rcases i with _ | i
    · obtain rfl : b = a := by simpa using h
      exact absurd ((c.fails_iff d _).mp ha p hb) hp.not_strays
    · exact ih p.nextToken (by simpa using h)
  | @failure b as ps hb hr ih =>
    rw [asked_of_fails hb]
    rcases i with _ | i
    · refine ⟨pt, rfl, ?_⟩
      rcases hr with _ | _ | _ <;> simp [asked]
    · exact ih pt (by simpa using h)

/-- A request depends on its access token only in the authorization. -/
lemma request_url_body (t t' : String) (pt : PageToken) :
    (c.request d t pt).url = (c.request d t' pt).url ∧
      (c.request d t pt).body = (c.request d t' pt).body := ⟨rfl, rfl⟩

end Catalog

namespace Feed

variable {k : Connector} {f : Feed} {s : Session} {ts : ℕ → String} {a : Answer} {as : List Answer}

/-- What a host gets for an answer that holds a page. -/
lemma page_of_answer (hts : k.directory.client.Supplies s ts) (hn : s.transport.next? = some a)
    {p : Page f.catalog.Item} (hp : f.catalog.page? k.directory a = some p) (hs : ¬p.Strays)
    (pt : PageToken) :
    ∃ u, f.page k pt s = (.ok (.ofPage p f.convert), u) ∧
      u.transport = s.transport.after [f.catalog.request k.directory (ts 0) pt] ∧
      k.directory.client.Supplies u fun i => ts (i + 1) := by
  obtain ⟨s₁, hf, hs₁, hts₁⟩ := Catalog.fetch_of_supplies (c := f.catalog) hts pt
  rw [(Catalog.read_ok_iff _ _).mpr ⟨a, hn, hp, hs⟩] at hf
  exact ⟨_, page_of_ok hf, hs₁, hts₁.congr rfl⟩

/-- What a host gets for an answer that fails. -/
lemma page_of_failure (hts : k.directory.client.Supplies s ts) (hn : s.transport.next? = some a)
    (ha : f.catalog.Fails k.directory a) (pt : PageToken) :
    ∃ e u, f.page k pt s = (.error e, u) ∧
      u.transport = s.transport.after [f.catalog.request k.directory (ts 0) pt] ∧
      k.directory.client.Supplies u fun i => ts (i + 1) := by
  obtain ⟨s₁, hf, hs₁, hts₁⟩ := Catalog.fetch_of_supplies (c := f.catalog) hts pt
  obtain ⟨e, he⟩ := ha pt
  rw [hn, (Catalog.read_error_iff _ _).mpr he] at hf
  exact ⟨e, s₁, page_of_error hf, hs₁, hts₁⟩

/-- A host that goes on after failures brings what the pages hold. -/
lemma persist_of_interleaved {rest : List Answer} {ps : List (Page f.catalog.Item)}
    (hi : f.catalog.Interleaved k.directory as ps) (hts : k.directory.client.Supplies s ts)
    (hq : s.transport.queue = as ++ rest) {calls : ℕ} (hn : as.length ≤ calls) (pt : PageToken)
    (p : Pass f.Entry) :
    ∃ u, Pass.persist (f.page k) calls pt p s =
      (.ok ⟨p.items ++ ps.flatMap (fun q => f.convert q.items), p.tokens ++ ps.map Page.nextToken,
        none⟩, u) ∧
      u.transport = s.transport.after
        (f.catalog.requests k.directory ts (f.catalog.asked k.directory pt as)) := by
  induction hi generalizing s ts calls pt p with
  | @last a q h hl =>
    obtain ⟨n, rfl⟩ : ∃ n, calls = n + 1 := ⟨calls - 1, by simp at hn; omega⟩
    have hnext : s.transport.next? = some a := by simp [Transport.next?, hq]
    obtain ⟨u, hu, hut, -⟩ := page_of_answer hts hnext h (Page.not_strays_of_last hl) pt
    have hend : (SyncPage.ofPage q f.convert).next.isStart = true := by
      simp [SyncPage.ofPage, Page.nextToken_of_last hl]
    refine ⟨u, ?_, ?_⟩
    · rw [Pass.persist_of_last hu hend]
      simp [Pass.add, SyncPage.ofPage]
    · rw [Catalog.asked_of_page h (Page.not_strays_of_last hl)]
      simpa [Catalog.asked] using hut
  | @page a q as ps h hlead _ ih =>
    obtain ⟨n, rfl⟩ : ∃ n, calls = n + 1 := ⟨calls - 1, by simp at hn; omega⟩
    have hnext : s.transport.next? = some a := by simp [Transport.next?, hq]
    obtain ⟨u, hu, hut, htu⟩ := page_of_answer hts hnext h hlead.not_strays pt
    have hqu : u.transport.queue = as ++ rest := by simp [hut, Transport.after, hq]
    obtain ⟨v, hv, hvt⟩ := ih htu hqu (by simpa using hn) q.nextToken
      { p.add (.ofPage q f.convert) with failed := none }
    refine ⟨v, ?_, ?_⟩
    · rw [Pass.persist_of_more hu (show q.nextToken.isStart = false from hlead.isStart_nextToken)]
      refine hv.trans ?_
      simp [Pass.add, SyncPage.ofPage]
    · rw [Catalog.asked_of_page h hlead.not_strays, hvt, hut, Transport.after_after]
      simp
  | @failure a as ps h _ ih =>
    -- the token stays, and so does what the pass has brought
    obtain ⟨n, rfl⟩ : ∃ n, calls = n + 1 := ⟨calls - 1, by simp at hn; omega⟩
    have hnext : s.transport.next? = some a := by simp [Transport.next?, hq]
    obtain ⟨e, u, hu, hut, htu⟩ := page_of_failure hts hnext h pt
    have hqu : u.transport.queue = as ++ rest := by simp [hut, Transport.after, hq]
    obtain ⟨v, hv, hvt⟩ := ih htu hqu (by simpa using hn) pt { p with failed := some e }
    refine ⟨v, ?_, ?_⟩
    · rw [Pass.persist_of_error hu, hv]
    · rw [Catalog.asked_of_fails h, hvt, hut, Transport.after_after]
      simp

/-- **A pass can be resumed.** A host that after each failure asks again with the token of its last
good page gets what the pages of the listing hold, each page once and in order, wherever the
failures stand before them; and the request after a failed one has the same URL and body. -/
theorem pass_resumes_after_failures (k : Connector) (f : Feed) {s : Session} {ts : ℕ → String}
    (hts : k.directory.client.Supplies s ts) {as rest : List Answer}
    {ps : List (Page f.catalog.Item)} (hi : f.catalog.Interleaved k.directory as ps)
    (hq : s.transport.queue = as ++ rest) {calls : ℕ} (hn : as.length ≤ calls) :
    ∃ u rs, Pass.persist (f.page k) calls .start .empty s =
        (.ok ⟨ps.flatMap fun p => f.convert p.items, ps.map Page.nextToken, none⟩, u) ∧
      rs = f.catalog.requests k.directory ts (f.catalog.asked k.directory .start as) ∧
      u.transport = s.transport.after rs ∧
      ∀ i a, as[i]? = some a → f.catalog.Fails k.directory a →
        ∃ r r', rs[i]? = some r ∧ rs[i + 1]? = some r' ∧ r'.url = r.url ∧ r'.body = r.body := by
  obtain ⟨u, hu, hut⟩ := persist_of_interleaved hi hts hq hn .start .empty
  refine ⟨u, _, by simpa [Pass.empty] using hu, rfl, hut, fun i a h ha => ?_⟩
  obtain ⟨qt, h1, h2⟩ := Catalog.asked_again hi .start h ha
  refine ⟨f.catalog.request k.directory (ts i) qt, f.catalog.request k.directory (ts (i + 1)) qt,
    ?_, ?_, Catalog.request_url_body ..⟩
  · simp [Catalog.requests, h1]
  · simp [Catalog.requests, h2]

end Feed

/-! ### A sample -/

namespace Sample

/-- Two pages, each after failures: a failed transport and a page without a cursor, then a refusal
and a body that is no page. -/
def brokenAnswers : List Answer :=
  [.failure .timeout, groupAnswer "g:9" "" true, groupAnswer "g:1" "c" true,
    .response 429 [] [], .response 200 [] [], groupAnswer "g:3" "d" false]

lemma page?_strayAnswer :
    (groupAnswer "g:9" "" true).page? PageBody.groups directory.client.now =
      some (groupPage "g:9" "" true) := by
  decide +kernel

lemma interleaved_brokenAnswers : Catalog.groups.Interleaved directory brokenAnswers
    [groupPage "g:1" "c" true, groupPage "g:3" "d" false] := by
  obtain ⟨h1, -, h3⟩ := page?_groupAnswers
  obtain ⟨f, hf⟩ : ∃ f, PageBody.groups.decoder.decode [] = .error f := ⟨_, rfl⟩
  refine .failure (Catalog.fails_of_refuses _ _ .start (.rejected (.transport .timeout))) ?_
  refine .failure (Catalog.fails_of_refuses _ _ .start (.noCursor page?_strayAnswer
    ⟨rfl, rfl⟩)) ?_
  refine .page h1 ⟨rfl, by decide⟩ ?_
  refine .failure (Catalog.fails_of_refuses _ _ .start (.rejected (.status rfl))) ?_
  refine .failure (Catalog.fails_of_refuses _ _ .start (.undecodable rfl hf)) ?_
  exact .last h3 rfl

end Sample

open Sample in
theorem Feed.pass_resumes_after_failures_groups :
    (directory.client.Supplies (session brokenAnswers) fun _ => "sl.token") ∧
      Catalog.groups.Interleaved directory brokenAnswers
        [groupPage "g:1" "c" true, groupPage "g:3" "d" false] ∧
      ∃ u, Pass.persist ((Feed.groups none).page ⟨directory⟩) 6 .start .empty
          (session brokenAnswers) =
        (.ok ⟨Groups.resources none [⟨"g:1", "", "", 0⟩, ⟨"g:3", "", "", 0⟩], [⟨"c"⟩, .start],
          none⟩, u) := by
  have hq : (session brokenAnswers).transport.queue = brokenAnswers ++ [] := rfl
  have hn : brokenAnswers.length ≤ 6 := Nat.le_refl 6
  obtain ⟨u, -, hu, -⟩ := pass_resumes_after_failures ⟨directory⟩ (.groups none)
    (supplies (session brokenAnswers)) interleaved_brokenAnswers hq hn
  exact ⟨supplies _, interleaved_brokenAnswers, u, hu⟩

end TeamSync
