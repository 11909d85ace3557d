import TeamSync.Proofs.Resume

/-!
A pass along whole pages. Where the answers to come are pages that lead on and then a last one, the
loop of a host takes exactly these answers, hands out the cursor of each page but the last and then
the empty token, whatever cursor the last page has, and brings the entries of all pages.
-/

namespace TeamSync

namespace Feed

variable {k : Connector} {f : Feed} {s : Session} {ts : ℕ → String}
  {ps : List (Page f.catalog.Item)} {p : Page f.catalog.Item} {a : Answer}

/-- The pass that has gone on along some pages and then a last one. -/
def walked (f : Feed) (b : Pass f.Entry) (ps : List (Page f.catalog.Item))
    (p : Page f.catalog.Item) : Pass f.Entry :=
  ⟨b.items ++ f.convert (Page.gathered (ps ++ [p])),
    b.tokens ++ (ps.map (fun q => ⟨q.cursor⟩) ++ [.start]), b.failed⟩

/-- After a last page the pass is over. -/
lemma walked_nil (b : Pass f.Entry) (hl : p.hasMore = false) :
    f.walked b [] p = b.add (.ofPage p f.convert) := by
  simp [walked, Pass.add, SyncPage.ofPage, Page.nextToken_of_last hl]

/-- After a page that leads on the pass goes on with the pages after it. -/
lemma walked_cons (b : Pass f.Entry) {q : Page f.catalog.Item} (hq : q.Leads) :
    f.walked b (q :: ps) p = f.walked (b.add (.ofPage q f.convert)) ps p := by
  simp [walked, Pass.add, SyncPage.ofPage, hq.nextToken]

/-- **A pass goes along the pages** and ends after the last of them. -/
theorem follow_of_chain (hts : k.directory.client.Supplies s ts)
    (hc : Catalog.Chain k.directory f.catalog s.transport ps)
    (ha : s.transport.answer? ps.length = some a) (hp : f.catalog.page? k.directory a = some p)
    (hl : p.hasMore = false) {budget : ℕ} (hb : ps.length ≤ budget) (pt : PageToken)
    (b : Pass f.Entry) :
    ∃ u, Pass.Follows (f.page k) pt b s (f.walked b ps p) u ∧
      Pass.follow (f.page k) budget pt b s = (.ok (f.walked b ps p), u) ∧
      u.transport = s.transport.after
        (f.catalog.requests k.directory ts (pt :: ps.map fun q => ⟨q.cursor⟩)) := by
  induction ps generalizing s ts budget pt b with
  | nil =>
    have hn : s.transport.next? = some a := by simpa using ha
    obtain ⟨u, hu, hut, -⟩ := page_of_answer hts hn hp (Page.not_strays_of_last hl) pt
    have hend : (SyncPage.ofPage p f.convert).next.isStart = true := by
      simp [SyncPage.ofPage, Page.nextToken_of_last hl]
    rw [walked_nil b hl]
    exact ⟨u, .last hu hend, Pass.follow_of_last hu hend budget, by simpa using hut⟩
  | cons q ps ih =>
    obtain ⟨⟨c, hn, hq, hlead⟩, hc⟩ :=
      (Catalog.chain_cons_iff (f.catalog.request k.directory (ts 0) pt)).mp hc
    obtain ⟨u, hu, hut, htu⟩ := page_of_answer hts hn hq hlead.not_strays pt
    have hmore : (SyncPage.ofPage q f.convert).next.isStart = false := hlead.isStart_nextToken
    -- the session after this page stands before the rest of the pages
    have hau : u.transport.answer? ps.length = some a := by
      rw [hut, Transport.answer?_after, List.length_singleton, Nat.add_comm]
      exact ha
    obtain ⟨n, rfl⟩ : ∃ n, budget = n + 1 := ⟨budget - 1, by simp at hb; omega⟩
    have hb : ps.length ≤ n := by simpa using hb
    obtain ⟨v, hfollows, hfollow, hvt⟩ := ih htu (by rw [hut]; exact hc) hau hb q.nextToken
      (b.add (.ofPage q f.convert))
    rw [walked_cons b hlead]
    refine ⟨v, .more hu hmore hfollows, ?_, ?_⟩
    · rw [Pass.follow_of_more hu hmore]
      exact hfollow
    · rw [hvt, hut, Transport.after_after]
      simp [hlead.nextToken]

end Feed

end TeamSync
