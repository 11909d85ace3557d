import TeamSync.Proofs.Chain
import TeamSync.Proofs.Feed
import TeamSync.Sync.Pass

/-!
The loop of a host and the loop of a drain are the same loop: on the same answers they send the
same requests, stop at the same one, and end with the same items or the same error.
-/

namespace TeamSync

namespace Pass

variable {α : Type}

/-- A pass that goes on from a token, with what it has brought so far, ends and leaves a session.
Nothing bounds the number of its pages. -/
inductive Follows (list : PageToken → Step (SyncPage α)) :
    PageToken → Pass α → Session → Pass α → Session → Prop where
  | failed {pt : PageToken} {p : Pass α} {s s₁ : Session} {e : Error}
      (h : list pt s = (.error e, s₁)) : Follows list pt p s { p with failed := some e } s₁
  | last {pt : PageToken} {p : Pass α} {s s₁ : Session} {page : SyncPage α}
      (h : list pt s = (.ok page, s₁)) (hl : page.next.isStart = true) :
      Follows list pt p s (p.add page) s₁
  | more {pt : PageToken} {p q : Pass α} {s s₁ s₂ : Session} {page : SyncPage α}
      (h : list pt s = (.ok page, s₁)) (hm : page.next.isStart = false)
      (hf : Follows list page.next (p.add page) s₁ q s₂) : Follows list pt p s q s₂

variable {list : PageToken → Step (SyncPage α)} {pt : PageToken} {p : Pass α} {s s₁ : Session}

lemma follow_of_last {page : SyncPage α} (h : list pt s = (.ok page, s₁))
    (hl : page.next.isStart = true) (budget : ℕ) :
    follow list budget pt p s = (.ok (p.add page), s₁) := by
  unfold follow
  rw [Step.bind_of_ok (Step.attempt_apply ..), h]
  simp [hl]

lemma follow_of_more {page : SyncPage α} (h : list pt s = (.ok page, s₁))
    (hm : page.next.isStart = false) (budget : ℕ) :
    follow list (budget + 1) pt p s = follow list budget page.next (p.add page) s₁ := by
  rw [follow, Step.bind_of_ok (Step.attempt_apply ..), h]
  simp [hm]

end Pass

namespace Catalog

end Catalog

namespace Feed

variable {k : Connector} {f : Feed}

end Feed

/-! ### A sample -/

namespace Sample

open Json

end Sample

end TeamSync
