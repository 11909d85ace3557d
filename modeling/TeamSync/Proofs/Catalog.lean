import TeamSync.Directory
import TeamSync.Proofs.Call
import TeamSync.Proofs.Json.ReadBack

/-!
The three listings of a directory as data, and the page of a token as one round trip.

What an answer says to a listing does not depend on the call that it answers: it holds a page or
it does not, and a page may announce another without saying how to get it.
-/

namespace TeamSync

/-- The page that an answer holds: a success whose body is a page. -/
def Answer.page? {α : Type} (r : Json.Record (PageBody α)) (now : Instant) :
    Answer → Option (Page α)
  | .failure _ => none
  | .response status headers body arrival =>
    if Http.isSuccess status then
      match r.decoder.decode body with
      | .ok b => some (b.page (.ofResponse status (.ofList headers) (arrival.instant now)))
      | .error _ => none
    else none

namespace Page

variable {α : Type}

/-- A page that announces another and says how to get it. -/
def Leads (p : Page α) : Prop := p.hasMore = true ∧ p.cursor ≠ ""

/-- A page that announces another but does not say how to get it. -/
def Strays (p : Page α) : Prop := p.hasMore = true ∧ p.cursor = ""

lemma validated_of_not_strays {p : Page α} (h : ¬p.Strays) (l : Listing) :
    p.validated l = .ok p := by
  simp only [Strays, not_and] at h
  simp only [validated, Bool.and_eq_true, decide_eq_true_eq]
  exact if_neg fun ⟨h1, h2⟩ => h h1 h2

lemma validated_of_strays {p : Page α} (h : p.Strays) (l : Listing) :
    p.validated l = .error (.pagination (.missingCursor l.name)) := by
  simp [validated, h.1, h.2]

lemma Leads.not_strays {p : Page α} (h : p.Leads) : ¬p.Strays := fun hs => h.2 hs.2

lemma not_strays_of_last {p : Page α} (h : p.hasMore = false) : ¬p.Strays := fun hs => by
  exact absurd hs.1 (by simp [h])

lemma Leads.nextToken {p : Page α} (h : p.Leads) : p.nextToken = ⟨p.cursor⟩ := by
  simp [Page.nextToken, h.1]

lemma nextToken_of_last {p : Page α} (h : p.hasMore = false) : p.nextToken = .start := by
  simp [nextToken, h]

/-- The three kinds of page. -/
lemma leads_or_strays_or_last (p : Page α) : p.Leads ∨ p.Strays ∨ p.hasMore = false := by
  by_cases h : p.hasMore = true
  · by_cases hc : p.cursor = ""
    · exact .inr (.inl ⟨h, hc⟩)
    · exact .inl ⟨h, hc⟩
  · exact .inr (.inr (by simpa using h))

end Page

namespace PageToken

@[simp] lemma isStart_start : start.isStart = true := by simp [isStart, start]

end PageToken

lemma Page.Leads.isStart_nextToken {α : Type} {p : Page α} (h : p.Leads) :
    p.nextToken.isStart = false := by
  simp [h.nextToken, PageToken.isStart, h.2]

lemma Directory.parse_cursorBody (cursor : String) :
    Json.parse (Utf8.ofString (cursorBody cursor).toText) =
      .ok (.object [("cursor", .string cursor)]) :=
  Json.parse_toText rfl
    (by simp [cursorBody, Json.Value.depth, Json.membersDepth, Json.depthLimit])

/-- What a directory lists. -/
inductive Catalog where
  | members
  | groups
  | groupMembers (group : String)

namespace Catalog

open Json

/-- The type of the entries. -/
def Item : Catalog → Type
  | .members => Member
  | .groups => Group
  | .groupMembers _ => GroupMember

/-- The listing with its two calls. -/
def pages (d : Directory) : (c : Catalog) → Paged c.Item
  | .members => d.members
  | .groups => d.groups
  | .groupMembers group => d.groupMembers group

def record : (c : Catalog) → Record (PageBody c.Item)
  | .members => PageBody.members
  | .groups => PageBody.groups
  | .groupMembers _ => PageBody.groupMembers

def listing : Catalog → Listing
  | .members => .members
  | .groups => .groups
  | .groupMembers _ => .groupMembers

/-- What the first call says beside the operation. -/
def filters (d : Directory) : Catalog → List (String × Value)
  | .members => [d.limitField, ("include_removed", .bool true)]
  | .groups => [d.limitField]
  | .groupMembers group => [("group", (GroupSelector.groupId group).toJson), d.limitField]

variable (d : Directory) (c : Catalog)

lemma pages_eq : c.pages d = d.listing c.record c.listing (c.filters d) := by
  cases c <;> rfl

/-! ### Requests -/

/-- The operation that gets the page of a token. -/
def op (pt : PageToken) : Operation := .list c.listing pt.phase

/-- The body that gets the page of a token: the filters to start, and then the cursor alone. -/
def body (pt : PageToken) : Value :=
  if pt.isStart then .object (c.filters d) else Directory.cursorBody pt.text

/-- The request for the page of a token. -/
def request (token : String) (pt : PageToken) : Http.Request :=
  d.client.requestOf (c.op pt) token (c.body d pt)

/-- The requests for the pages of some tokens, in order. -/
def requests (ts : ℕ → String) (pts : List PageToken) : List Http.Request :=
  pts.mapIdx fun k pt => c.request d (ts k) pt

@[simp] lemma requests_nil (ts : ℕ → String) : c.requests d ts [] = [] := rfl

@[simp] lemma requests_cons (ts : ℕ → String) (pt : PageToken) (pts : List PageToken) :
    c.requests d ts (pt :: pts) =
      c.request d (ts 0) pt :: c.requests d (fun k => ts (k + 1)) pts := by
  simp [requests, List.mapIdx_cons]

@[simp] lemma length_requests (ts : ℕ → String) (pts : List PageToken) :
    (c.requests d ts pts).length = pts.length := by
  simp [requests]

/-- The request that carries a listing on goes where listings are carried on, with the cursor as
the only member of its body. -/
lemma request_of_cursor (token : String) {cursor : String} (h : cursor ≠ "") :
    (c.request d token ⟨cursor⟩).url = d.client.endpoints.url (.list c.listing .continuing) ∧
      ∃ text, (c.request d token ⟨cursor⟩).body = some text ∧
        parse (Utf8.ofString text) = .ok (.object [("cursor", .string cursor)]) := by
  have hstart : PageToken.isStart ⟨cursor⟩ = false := by simp [PageToken.isStart, h]
  simp only [request, Client.requestOf, op, body, PageToken.phase, hstart]
  exact ⟨rfl, _, rfl, Directory.parse_cursorBody cursor⟩

/-! ### Answers -/

/-- The page an answer holds for this listing. -/
def page? (a : Answer) : Option (Page c.Item) := a.page? c.record d.client.now

lemma page?_of_decode {status : ℕ} (headers : List (String × String)) {body : List UInt8}
    (arrival : Arrival) {b : PageBody c.Item} (hs : Http.isSuccess status = true)
    (hd : c.record.decoder.decode body = .ok b) :
    c.page? d (.response status headers body arrival) =
      some (b.page (.ofResponse status (.ofList headers) (arrival.instant d.client.now))) := by
  simp only [page?, Answer.page?, hs, if_true, hd]

/-- What the page of a token comes to. -/
def read (pt : PageToken) (a : Option Answer) : Except Error (Page c.Item) :=
  d.client.read c.record.decoder (c.op pt) a >>= fun r =>
    (r.value.page r.rateLimit).validated c.listing

/-- The ways in which the page of a token is refused, each with the error it fails with. -/
inductive Refuses (pt : PageToken) : Option Answer → Error → Prop where
  | rejected {a : Option Answer} {e : Error} (h : d.client.Rejects (c.op pt) a e) :
      Refuses pt a (.within (c.op pt) e)
  | undecodable {status : ℕ} {headers : List (String × String)} {body : List UInt8}
      {arrival : Arrival} {f : Fault} (h : Http.isSuccess status = true)
      (hd : c.record.decoder.decode body = .error f) :
      Refuses pt (some (.response status headers body arrival))
        (.within (c.op pt) (.response (.deserialization f.message)))
  | noCursor {a : Answer} {p : Page c.Item} (h : c.page? d a = some p) (hp : p.Strays) :
      Refuses pt (some a) (.pagination (.missingCursor c.listing.name))

lemma read_of_page? (pt : PageToken) {a : Answer} {p : Page c.Item} (h : c.page? d a = some p) :
    c.read d pt (some a) = p.validated c.listing := by
  rcases a with ⟨status, headers, body, arrival⟩ | cause
  · simp only [page?, Answer.page?] at h
    rcases hs : Http.isSuccess status with _ | _
    · simp [hs] at h
    rcases hd : c.record.decoder.decode body with f | b
    · simp [hs, hd] at h
    · obtain rfl :
          b.page (.ofResponse status (.ofList headers) (arrival.instant d.client.now)) = p := by
        simpa [hs, hd] using h
      simp [read, Client.read, Client.receive_of_success _ _ _ _ _ hs, hd, bind, Except.bind]
  · simp [page?, Answer.page?] at h

lemma read_of_refuses {pt : PageToken} {a : Option Answer} {e : Error} (h : c.Refuses d pt a e) :
    c.read d pt a = .error e := by
  cases h with
  | rejected h => simp [read, Client.read, Client.receive_of_rejects h, bind, Except.bind]
  | undecodable h hd =>
    simp [read, Client.read, Client.receive_of_success _ _ _ _ _ h, hd, bind, Except.bind]
  | noCursor h hp => rw [read_of_page? d c pt h, Page.validated_of_strays hp]

/-- Every answer holds a page that says how to go on, or is refused. -/
lemma page_or_refuses (pt : PageToken) (a : Option Answer) :
    (∃ b p, a = some b ∧ c.page? d b = some p ∧ ¬p.Strays) ∨ ∃ e, c.Refuses d pt a e := by
  rcases d.client.success_or_rejects (c.op pt) a with
    ⟨status, headers, body, arrival, rfl, hs⟩ | ⟨e, he⟩
  · rcases hd : c.record.decoder.decode body with f | b
    · exact .inr ⟨_, .undecodable hs hd⟩
    have hp := c.page?_of_decode d headers arrival hs hd
    by_cases hst :
        (b.page (.ofResponse status (.ofList headers) (arrival.instant d.client.now))).Strays
    · exact .inr ⟨_, .noCursor hp hst⟩
    · exact .inl ⟨_, _, rfl, hp, hst⟩
  · exact .inr ⟨_, .rejected he⟩

lemma read_ok_iff {pt : PageToken} {a : Option Answer} {p : Page c.Item} :
    c.read d pt a = .ok p ↔ ∃ b, a = some b ∧ c.page? d b = some p ∧ ¬p.Strays := by
  constructor
  · intro h
    rcases c.page_or_refuses d pt a with ⟨b, q, rfl, hq, hs⟩ | ⟨e, he⟩
    · rw [c.read_of_page? d pt hq, Page.validated_of_not_strays hs] at h
      obtain rfl : q = p := by simpa using h
      exact ⟨b, rfl, hq, hs⟩
    · rw [c.read_of_refuses d he] at h
      cases h
  · rintro ⟨b, rfl, hp, hs⟩
    rw [c.read_of_page? d pt hp, Page.validated_of_not_strays hs]

lemma read_error_iff {pt : PageToken} {a : Option Answer} {e : Error} :
    c.read d pt a = .error e ↔ c.Refuses d pt a e := by
  refine ⟨fun h => ?_, c.read_of_refuses d⟩
  rcases c.page_or_refuses d pt a with ⟨b, q, rfl, hq, hs⟩ | ⟨e', he'⟩
  · rw [c.read_of_page? d pt hq, Page.validated_of_not_strays hs] at h
    cases h
  · rw [c.read_of_refuses d he'] at h
    obtain rfl : e' = e := by simpa using h
    exact he'

/-! ### Pages -/

/-- What is logged when the page of a token is asked for. -/
def readLog (pt : PageToken) (a : Option Answer) : List Event :=
  d.client.readLog c.record.decoder (c.op pt) a

lemma page_eq (pt : PageToken) (body : Value) :
    (d.page c.record (c.op pt) body >>= fun p => Step.ofExcept (p.validated c.listing)) =
      d.client.roundTrip (c.op pt) body (c.read d pt) (c.readLog d pt) := by
  rw [Directory.page, Client.call_eq, bind_assoc]
  simp only [pure_bind]
  exact d.client.roundTrip_bind_ofExcept (c.op pt) body _ _ fun (r : Answered (PageBody c.Item)) =>
    (r.value.page r.rateLimit).validated c.listing

/-- A cursor that is not empty is no obstacle to going on. -/
lemma carryOn_eq {pt : PageToken} (h : pt.isStart = false) :
    d.carryOn c.record c.listing pt.text =
      d.page c.record (.list c.listing .continuing) (Directory.cursorBody pt.text) := by
  have hcur : requireCursor c.listing pt.text = .ok () := by
    simpa [requireCursor, PageToken.isStart] using h
  rw [Directory.carryOn, hcur]
  rfl

/-- **The page of a token is one round trip.** -/
theorem fetch_eq (pt : PageToken) :
    (c.pages d).fetch pt =
      d.client.roundTrip (c.op pt) (c.body d pt) (c.read d pt) (c.readLog d pt) := by
  rw [pages_eq, Paged.fetch, ← page_eq]
  rcases h : pt.isStart with _ | _
  · have hop : c.op pt = .list c.listing .continuing := by simp [op, PageToken.phase, h]
    simp only [Directory.listing, Bool.false_eq_true, if_false, carryOn_eq d c h, hop, body, h]
  · have hop : c.op pt = .list c.listing .start := by simp [op, PageToken.phase, h]
    simp only [Directory.listing, if_true, hop, body, h]

/-- The page of a token when there is an access token that can be sent. -/
lemma fetch_apply (pt : PageToken) {s s₁ : Session} {t : String}
    (ht : d.client.token s = (.ok t, s₁)) (hl : Http.isHeaderValue (bearer t)) :
    (c.pages d).fetch pt s =
      (c.read d pt s.transport.next?,
        s₁.spend (c.request d t pt) (c.readLog d pt s.transport.next?)) := by
  have hs : s₁.transport = s.transport := by simpa [ht] using d.client.token_transport s
  rw [fetch_eq, Client.roundTrip_apply _ _ _ _ _ ht hl, hs]
  rfl

end Catalog

end TeamSync
