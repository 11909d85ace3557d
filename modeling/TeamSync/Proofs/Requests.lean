import TeamSync.Proofs.Credentials

/-!
The requests of a session, and that none is ever repeated. Each is well formed, whatever is done. A
command goes on after an answer only if that is a page which says how to go on, so a failure is the
last that it hears.
-/

namespace TeamSync

open Json

/-! ### URLs -/

/-- A URL is what is left of it without the slashes at its end, and these slashes. -/
lemma Text.dropTrailingSlashes_append (s : String) :
    (∃ n, s.toList = (dropTrailingSlashes s).toList ++ List.replicate n '/') ∧
      (dropTrailingSlashes s).toList.getLast? ≠ some '/' := by
  have hdrop :
      (dropTrailingSlashes s).toList = (s.toList.reverse.dropWhile (· == '/')).reverse := by
    rw [dropTrailingSlashes, String.toList_ofList, dropEndWhile]
  constructor
  · have hall : ∀ c ∈ s.toList.reverse.takeWhile (· == '/'), c = '/' := fun c hc => by
      simpa using List.mem_takeWhile_imp hc
    have hrep := List.eq_replicate_of_mem hall
    have hsplit := List.takeWhile_append_dropWhile (p := (· == '/')) (l := s.toList.reverse)
    refine ⟨(s.toList.reverse.takeWhile (· == '/')).length, ?_⟩
    rw [hdrop, ← List.reverse_replicate, ← hrep, ← List.reverse_append, hsplit,
      List.reverse_reverse]
  · rw [hdrop, List.getLast?_reverse]
    intro hlast
    have hhead := List.head?_dropWhile_not (· == '/') s.toList.reverse
    rw [hlast] at hhead
    simp at hhead

/-! ### Requests -/

/-- A call below a base URL: a POST with three headers and an object for its body. -/
def Http.Request.IsCall (base : String) (r : Request) : Prop :=
  ∃ op text token ms,
    r = ⟨"POST", base ++ Operation.path op,
      [("authorization", "Bearer " ++ token), ("accept", "application/json"),
        ("content-type", "application/json")],
      some text⟩ ∧
    parse (Utf8.ofString text) = .ok (.object ms)

lemma Client.isCall_of_mem {c : Client} {ts : ℕ → Except Error String} {xs : List Call}
    (hxs : ∀ x ∈ xs, x.body.Readable) {r : Http.Request} (h : r ∈ c.requestsFor ts xs) :
    r.IsCall c.endpoints.base := by
  obtain ⟨i, t, x, hx, -, rfl⟩ := c.mem_requestsFor h
  obtain ⟨ms, hms⟩ := hxs x hx
  exact ⟨x.op, _, t, ms, rfl, hms⟩

lemma Client.length_requestsFor_le (c : Client) (ts : ℕ → Except Error String) (xs : List Call) :
    (c.requestsFor ts xs).length ≤ xs.length := by
  have h := List.reduceOption_length_le (xs.mapIdx fun i x => c.requestFor? (ts i) x)
  rw [List.length_mapIdx] at h
  exact h

/-- An answer with a page that leads on is no failure. -/
lemma Catalog.not_refuses_of_leads {d : Directory} {c : Catalog} {pt : PageToken} {a : Answer}
    {p : Page c.Item} (hp : c.page? d a = some p) (hl : p.Leads) (e : Error) :
    ¬c.Refuses d pt (some a) e := by
  intro he
  have hread := c.read_of_refuses d he
  rw [(c.read_ok_iff d).mpr ⟨a, rfl, hp, hl.not_strays⟩] at hread
  cases hread

namespace Connector

/-- The ways to make a connector for the base URL of a configuration. -/
inductive StandsAt (c : Config) : Connector → Prop where
  | connect {source : Option TokenSource} {now : Instant} {s s₁ : Session} {k : Connector}
      (h : connect c source now s = (.ok k, s₁)) : StandsAt c k
  | ofClient (tokens : TokenProvider) (now : Instant) :
      StandsAt c (.ofClient ⟨endpoints c, tokens, now⟩ c)

lemma StandsAt.base {c : Config} {k : Connector} (h : k.StandsAt c) :
    k.directory.client.endpoints.base = Text.dropTrailingSlashes c.baseUrl := by
  cases h with
  | connect h =>
    rcases connect_cases h with ⟨-, g, headers, body, arrival, cr, es, -, -, -, rfl, -⟩ |
      ⟨-, src, es, -, rfl, -⟩ <;> rfl
  | ofClient tokens now => rfl

/-- **Requests are sent once.** A command goes on after an answer only if that is a page of members
which leads on. So a command that does not go through all members sends one request at most, and of
those that do only the last request can have failed. -/
lemma perform_requests (k : Connector) (u : Session) (cmd : Command) :
    ∃ rs, (k.perform cmd u).2.transport = u.transport.after rs ∧
      (¬cmd.ListsRoles → rs.length ≤ 1) ∧
      (∀ i, i + 1 < rs.length → ∃ a p, u.transport.answer? i = some a ∧
        Catalog.members.page? k.directory a = some p ∧ p.Leads) := by
  obtain ⟨xs, ht⟩ := k.exists_trail cmd u
  have hlen := k.directory.client.length_requestsFor_le (k.directory.client.tokenAt u) xs
  refine ⟨_, ht.session.transport.trans (Client.makeAll_transport u xs), fun hl => ?_, ?_⟩
  · cases ht.makes with
    | nothing hi => simp
    | one hi _ x => exact hlen
    | pages hi hr hc => exact absurd hr hl
  · intro i hi
    cases ht.makes with
    | nothing hi' => simp at hi
    | one hi' hl x =>
      rw [List.length_singleton] at hlen
      omega
    | @pages hi' hr ps hc =>
      rw [Catalog.length_calls] at hlen
      obtain ⟨p, hp⟩ : ∃ p, ps[i]? = some p := ⟨ps[i], List.getElem?_eq_getElem (by omega)⟩
      obtain ⟨a, ha, hpage, hlead⟩ := hc i p hp
      exact ⟨a, p, ha, hpage, hlead⟩

/-- **The requests of a session.** Whatever is done with a connector, each request is a POST to the
base URL and the path of an operation, with the three headers and an object for its body. A command
that does not list roles sends one request at most. One that does goes on only after a page which
says how to go on, so in no command is a request that failed followed by another. -/
theorem requests_of_sessions {c : Config} {k : Connector} (hk : k.StandsAt c) (s : Session)
    (ts : List Turn) :
    (∃ later, (k.play ts s).2.transport.sent = s.transport.sent ++ later ∧
      ∀ r ∈ later, r.IsCall (Text.dropTrailingSlashes c.baseUrl)) ∧
    (∃ n, c.baseUrl.toList =
      (Text.dropTrailingSlashes c.baseUrl).toList ++ List.replicate n '/') ∧
    (Text.dropTrailingSlashes c.baseUrl).toList.getLast? ≠ some '/' ∧
    ∀ (u : Session) (cmd : Command),
      ∃ rs, (k.perform cmd u).2.transport = u.transport.after rs ∧
        (¬cmd.ListsRoles → rs.length ≤ 1) ∧
        (∀ i, i + 1 < rs.length → ∃ a p, u.transport.answer? i = some a ∧
          Catalog.members.page? k.directory a = some p ∧ p.Leads) ∧
        ∀ i pt e, i < rs.length →
          Catalog.members.Refuses k.directory pt (u.transport.answer? i) e → i + 1 = rs.length := by
  obtain ⟨xs, hxs, hmade⟩ := k.exists_made s ts
  obtain ⟨hslashes, hlast⟩ := Text.dropTrailingSlashes_append c.baseUrl
  refine ⟨⟨_, hmade.sent, fun r hr => ?_⟩, hslashes, hlast, fun u cmd => ?_⟩
  · rw [← hk.base]
    exact Client.isCall_of_mem hxs hr
  · obtain ⟨rs, hrs, hone, hlead⟩ := k.perform_requests u cmd
    refine ⟨rs, hrs, hone, hlead, fun i pt e hi he => ?_⟩
    by_contra hne
    obtain ⟨a, p, ha, hp, hl⟩ := hlead i (by omega)
    rw [ha] at he
    exact Catalog.not_refuses_of_leads hp hl e he

end Connector

/-! ### A sample -/

namespace Sample

/-- A base URL with slashes at its end. -/
def slashed : Config := { Config.standard with baseUrl := "https://example.org/api//" }

end Sample

open Sample in
theorem Connector.requests_of_sessions_slashed :
    ∃ k : Connector, k.StandsAt slashed ∧
      ∃ later, (k.play turns refused).2.transport.sent = later ∧
        ∀ r ∈ later, r.IsCall "https://example.org/api" := by
  have hk : Connector.StandsAt slashed
      (.ofClient ⟨endpoints slashed, client.tokens, client.now⟩ slashed) := .ofClient ..
  obtain ⟨⟨later, hsent, hlater⟩, -⟩ := requests_of_sessions hk refused turns
  have hbase : Text.dropTrailingSlashes slashed.baseUrl = "https://example.org/api" := by
    decide +kernel
  rw [hbase] at hlater
  exact ⟨_, hk, later, hsent, hlater⟩

end TeamSync
