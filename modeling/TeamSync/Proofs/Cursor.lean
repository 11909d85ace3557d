import TeamSync.Proofs.Arguments
import TeamSync.Proofs.Change
import TeamSync.Proofs.Json.ReadBack

/-!
Cursors on the wire. The page of a token is one request: without a token it opens the listing with
its filters, with one it carries the listing on with that token and nothing else. No request that
carries a listing on is ever sent without a cursor.
-/

namespace TeamSync

open Json

/-! ### Bodies as they are parsed -/

namespace Feed

/-- What the call that opens a listing says: its filters and how long a page may be. -/
def opening (limit : ℕ) : Feed → Value
  | .users _ => .object [("include_removed", .bool true), ("limit", .ofNat limit.toUInt64)]
  | .groups _ => .object [("limit", .ofNat limit.toUInt64)]
  | .grants group _ =>
    .object [("group", .object [(".tag", .string "group_id"), ("group_id", .string group.id.id)]),
      ("limit", .ofNat limit.toUInt64)]

lemma parse_filters (d : Directory) (f : Feed) :
    parse (Utf8.ofString (Value.object (f.catalog.filters d)).toText) =
      .ok (f.opening d.limit.size) := by
  cases f
  all_goals
    rw [parse_toText rfl (by simp [catalog, Catalog.filters, Directory.limitField, Value.depth,
      membersDepth, depthLimit, GroupSelector.toJson, Value.ofNat])]
    simp (disch := decide) only [catalog, Catalog.filters, Directory.limitField, opening,
      GroupSelector.toJson, Value.ofNat, Value.sorted, sortedMembers, Members.ofList,
      List.foldl_cons, List.foldl_nil, Members.insert_nil, Members.insert_of_lt,
      Members.insert_of_gt]

/-- What a host gets for the page of a token is what is read of the answer. -/
lemma perform_apply (f : Feed) (pt : PageToken) {k : Connector} {s s₁ : Session} {t : String}
    (ht : k.directory.client.token s = (.ok t, s₁)) (hl : Http.isHeaderValue (bearer t)) :
    (k.perform (f.command pt) s).2.transport =
        s.transport.after [f.catalog.request k.directory t pt] ∧
      ((∃ p reply, f.catalog.read k.directory pt s.transport.next? = .ok p ∧
          (k.perform (f.command pt) s).1 = .ok reply ∧ reply.next? = some p.nextToken) ∨
        ∃ e, f.catalog.read k.directory pt s.transport.next? = .error e ∧
          (k.perform (f.command pt) s).1 = .error e) := by
  have hs : s₁.transport = s.transport := by
    simpa [ht] using k.directory.client.token_transport s
  have hf := f.catalog.fetch_apply k.directory pt ht hl
  rw [perform_eq, Step.map_apply]
  rcases hr : f.catalog.read k.directory pt s.transport.next? with e | p <;> rw [hr] at hf
  · rw [page_of_error hf]
    exact ⟨by rw [Session.spend_transport, hs], .inr ⟨e, rfl, rfl⟩⟩
  · rw [page_of_ok hf]
    exact ⟨by rw [Session.noting_transport, Session.spend_transport, hs],
      .inl ⟨p, _, rfl, rfl, by rw [next?_reply]; rfl⟩⟩

end Feed

/-! ### Where requests go -/

/-- A request that goes where a listing is carried on says with which cursor. -/
def Http.Request.HasCursor (r : Http.Request) : Prop :=
  ∀ (e : Endpoints) (l : Listing), r.url = e.url (.list l .continuing) →
    ∃ text cursor, r.body = some text ∧ cursor ≠ "" ∧
      parse (Utf8.ofString text) = .ok (.object [("cursor", .string cursor)])

/-- All requests of a session that carry a listing on have a cursor. -/
def Session.HasCursors (s : Session) : Prop := ∀ r ∈ s.transport.sent, r.HasCursor

lemma Session.HasCursors.noting (s : Session) (es : List Event) (hs : s.HasCursors) :
    (s.noting es).HasCursors := hs

lemma Session.HasCursors.spend {s : Session} (h : s.HasCursors) {r : Http.Request}
    (hr : r.HasCursor) (es : List Event) : (s.spend r es).HasCursors := by
  intro q hq
  rw [Session.spend_sent, List.mem_append, List.mem_singleton] at hq
  rcases hq with hq | rfl
  · exact h q hq
  · exact hr

/-- What can be done in a session, except to call the service with a body of one's own. Connectors
and directories may be over any clients. -/
inductive Move where
  | connect (c : Config) (source : Option TokenSource) (now : Instant)
  | perform (k : Connector) (cmd : Command)
  | fetch (d : Directory) (c : Catalog) (pt : PageToken)
  | drain (d : Directory) (c : Catalog)
  | carryOn (d : Directory) (c : Catalog) (cursor : String)
  | invite (d : Directory) (email : String)
  | remove (d : Directory) (member : String)
  | change (d : Directory) (ch : Change)
  | enqueue (as : List Answer)
  | setStanding (a : Answer)

namespace Move

/-- The session after a move, whether it fails or not. -/
def run (s : Session) : Move → Session
  | connect c source now => (Connector.connect c source now s).2
  | perform k cmd => (k.perform cmd s).2
  | fetch d c pt => ((c.pages d).fetch pt s).2
  | drain d c => ((c.pages d).drain s).2
  | carryOn d c cursor => (d.carryOn c.record c.listing cursor s).2
  | invite d email => (d.invite email s).2
  | remove d member => (d.remove member s).2
  | change d ch => (d.mutate ch.kind ch.op ch.body s).2
  | enqueue as => { s with transport := s.transport.enqueue as }
  | setStanding a => { s with transport := s.transport.setStanding a }

end Move

namespace Connector

end Connector

namespace Connector

variable {ss : List Setting} {c : Config} {k : Connector}

end Connector

/-! ### A sample -/

namespace Sample

end Sample

end TeamSync
