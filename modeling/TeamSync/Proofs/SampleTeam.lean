import Mathlib.Algebra.Order.Floor.Div
import TeamSync.Proofs.Cursor
import TeamSync.Proofs.Paging
import TeamSync.Proofs.Wire

/-!
The sample team, of any size and in pages of any size, as a host gets it: each member once and in
order, one call for each page.
-/

namespace TeamSync

open Json

/-! ### Numbers of the members -/

namespace Numeral

/-- Zeros in front do not change the value of a numeral. -/
lemma digitsValue_padded (width n : ℕ) :
    NumberLiteral.digitsValue ((padded width n).map digitValue) = n := by
  have hzeros : ∀ k, (List.replicate k 0).foldl (fun n d => n * 10 + d) 0 = 0 := by
    intro k
    induction k with
    | zero => rfl
    | succ k ih => rwa [List.replicate_succ, List.foldl_cons]
  have hvalue := NumberLiteral.digitsValue_ofNat n
  rw [NumberLiteral.digitsValue] at hvalue ⊢
  rw [padded, List.map_append, List.map_replicate, List.foldl_append]
  rw [show digitValue '0' = 0 from rfl, hzeros, hvalue]

/-- The numerals of a width are distinct, also of numbers that do not fit the width. -/
lemma padded_injective (width : ℕ) : Function.Injective (padded width) := by
  intro m n h
  have hm := digitsValue_padded width m
  rw [h, digitsValue_padded] at hm
  exact hm.symm

end Numeral

namespace Sample

/-- **No two members share an identifier.** -/
theorem memberId_injective : Function.Injective memberId := by
  intro m n h
  have hl := congrArg String.toList h
  simp only [memberId, numbered, String.toList_append, String.toList_ofList,
    List.append_cancel_left_eq] at hl
  exact Numeral.padded_injective 5 hl

lemma cursor_ne_empty (i : ℕ) : cursor i ≠ "" := by
  intro h
  have hl := congrArg String.toList h
  simp [cursor] at hl

/-! ### Pages of the members -/

/-- The numbers of the members on the page with some index. -/
def numbersOf (total size index : ℕ) : List ℕ :=
  List.range' (index * size) (min (index * size + size) total - index * size)

/-- **The first pages hold the first members**, each once and in order. -/
theorem flatMap_numbersOf (total size : ℕ) (m : ℕ) :
    (List.range m).flatMap (numbersOf total size) = List.range (min (m * size) total) := by
  induction m with
  | zero => simp
  | succ m ih =>
    rw [List.range_succ, List.flatMap_append, ih, List.flatMap_cons, List.flatMap_nil,
      List.append_nil, numbersOf, Nat.succ_mul]
    rcases Nat.le_total (m * size) total with h | h
    · -- the page goes on where the pages before it stop
      have hsum : m * size + (min (m * size + size) total - m * size) =
          min (m * size + size) total := by omega
      rw [Nat.min_eq_left h, List.range_eq_range', List.range_eq_range', ← hsum]
      simpa using List.range'_append_1 (s := 0) (m := m * size)
    · -- all members were on the pages before it
      have hnone : min (m * size + size) total - m * size = 0 := by omega
      have hall : min (m * size + size) total = min (m * size) total := by omega
      rw [hnone, hall]
      simp

lemma pageCount_eq (total size : ℕ) : pageCount total size = max 1 (total ⌈/⌉ size) := rfl

/-- All pages hold all members. -/
lemma flatMap_numbersOf_pageCount (total : ℕ) {size : ℕ} (hs : 0 < size) :
    (List.range (pageCount total size)).flatMap (numbersOf total size) = List.range total := by
  have hle : total ≤ size * (total ⌈/⌉ size) := le_smul_ceilDiv hs
  have hcount : total ⌈/⌉ size ≤ pageCount total size := Nat.le_max_right ..
  have htotal : total ≤ pageCount total size * size := by
    calc total ≤ size * (total ⌈/⌉ size) := hle
      _ ≤ size * pageCount total size := Nat.mul_le_mul_left size hcount
      _ = pageCount total size * size := Nat.mul_comm ..
  rw [flatMap_numbersOf, Nat.min_eq_right htotal]

/-- A member of the team, as it is read. -/
def teamMember (n : ℕ) : Member :=
  ⟨⟨"dbid:AAH" ++ numbered n, memberId n, ⟨"User " ++ digits n, "User", digits n⟩, email n, [],
    "active"⟩, []⟩

/-- The page with some index, as it is read. -/
def teamBody (total size index : ℕ) : PageBody Member :=
  ⟨cursor index, index + 1 < pageCount total size, (numbersOf total size index).map teamMember⟩

end Sample

section

-- how a record is read, member by member, once it is known which field each member belongs to
attribute [local simp] Record.readMember Record.refuseTwice Record.complete Field.required
  Field.defaulted

namespace Sample

lemma profile_eq (n : ℕ) (status : String) : profile n status =
    .object [("account_id", .string ("dbid:AAH" ++ numbered n)), ("email", .string (email n)),
      ("email_verified", .bool true), ("groups", .array []), ("membership_type", tagJson "full"),
      ("name", (PersonName.mk ("User " ++ digits n) "User" (digits n)).toJson),
      ("status", tagJson status), ("team_member_id", .string (memberId n))] := rfl

/-- What the service says of a profile beyond what is kept is passed over. -/
lemma profile_node (depth n : ℕ) :
    Profile.record.decoder (depth + 2) (profile n "active").node =
      .ok (teamMember n).profile := by
  have hverified : (Value.bool true).node.skim = .ok () := Value.skim_node _ rfl
  have htype : (tagJson "full").node.skim = .ok () := Value.skim_node _ rfl
  have hgroups := Decoder.list_node (Decoder.string_node depth) []
  rw [List.map_nil] at hgroups
  rw [profile_eq]
  simp [Profile.record, teamMember, hverified, htype, hgroups]

lemma member_node (depth n : ℕ) :
    Member.record.decoder (depth + 3) (member n []).node = .ok (teamMember n) := by
  have hroles := Decoder.list_node (Role.decoder_node depth) []
  rw [List.map_nil] at hroles
  simp [Member.record, member, profile_node, hroles]
  rfl

lemma memberPage_node (depth total size index : ℕ) :
    PageBody.members.decoder (depth + 5) (memberPage total size index).node =
      .ok (teamBody total size index) := by
  have hitems := Decoder.list_map_node (member_node depth) (numbersOf total size index)
  simp only [numbersOf] at hitems
  simp [PageBody.members, PageBody.record, memberPage, membersPage, hitems, teamBody, numbersOf]

lemma whole_memberPage (total size index : ℕ) : (memberPage total size index).whole = true := by
  have hitems := wholeElements_map (f := (member · [])) (fun _ => rfl) (numbersOf total size index)
  simp only [numbersOf] at hitems
  simp [memberPage, membersPage, Value.whole, wholeMembers, hitems]

end Sample

end

/-! ### A pass over the team -/

/-- An answer that reports success and has the text of a value as its body. -/
def Answer.Holds (v : Value) (a : Answer) : Prop :=
  ∃ status headers arrival, Http.isSuccess status = true ∧
    a = .response status headers (Utf8.ofString v.toText) arrival

namespace Sample

variable {d : Directory} {total size : ℕ}

lemma page?_of_holds {a : Answer} {index : ℕ} (h : a.Holds (memberPage total size index)) :
    ∃ limit, Catalog.members.page? d a = some ((teamBody total size index).page limit) := by
  obtain ⟨status, headers, arrival, hs, rfl⟩ := h
  have hd : Catalog.members.record.decoder.decode
      (Utf8.ofString (memberPage total size index).toText) = .ok (teamBody total size index) :=
    Decoder.decode_toText (whole_memberPage ..) (memberPage_node 122 ..)
  refine ⟨.ofResponse status (.ofList headers) (arrival.instant d.client.now), ?_⟩
  simp only [Catalog.page?, Answer.page?, hs, if_true, hd]
  rfl

/-- The entries of all pages, in order. -/
lemma gathered_pages (total : ℕ) {size : ℕ} (hs : 0 < size) (limits : ℕ → RateLimit) :
    Page.gathered ((List.range (pageCount total size)).map fun i =>
      (teamBody total size i).page (limits i)) = (List.range total).map teamMember := by
  calc Page.gathered ((List.range (pageCount total size)).map fun i =>
        (teamBody total size i).page (limits i))
      = (List.range (pageCount total size)).flatMap fun i =>
          (numbersOf total size i).map teamMember := by
        rw [Page.gathered, List.flatMap_map]
        rfl
    _ = ((List.range (pageCount total size)).flatMap (numbersOf total size)).map teamMember :=
        List.map_flatMap.symm
    _ = (List.range total).map teamMember := by rw [flatMap_numbersOf_pageCount total hs]

variable {s : Session} {as rest : List Answer}

/-- Each answer holds the page with its index. -/
lemma page?_of_forall₂ (has : List.Forall₂ Answer.Holds (memberPages total size) as)
    (hq : s.transport.queue = as ++ rest) {index : ℕ}
    (hi : index < pageCount total (max 1 size)) :
    ∃ a limit, s.transport.answer? index = some a ∧ Catalog.members.page? d a =
      some ((teamBody total (max 1 size) index).page limit) := by
  have hv : index < (memberPages total size).length := by simpa [memberPages] using hi
  have ha : index < as.length := has.length_eq ▸ hv
  have hholds : as[index].Holds (memberPage total (max 1 size) index) := by
    simpa [memberPages] using has.get hv ha
  obtain ⟨limit, hp⟩ := page?_of_holds hholds
  refine ⟨as[index], limit, ?_, hp⟩
  simp [Transport.answer?, hq, List.getElem?_append_left ha]

/-- **The pages of the team are pages that lead on and then a last one**, which has a cursor too. -/
theorem exists_pages (has : List.Forall₂ Answer.Holds (memberPages total size) as)
    (hq : s.transport.queue = as ++ rest) (d : Directory) :
    ∃ (ps : List (Page Member)) (p : Page Member) (a : Answer),
      Catalog.Chain d .members s.transport ps ∧ s.transport.answer? ps.length = some a ∧
      Catalog.members.page? d a = some p ∧ p.hasMore = false ∧
      ps.length + 1 = pageCount total (max 1 size) ∧
      ps.map (fun q => PageToken.mk q.cursor) =
        (List.range ps.length).map (fun i => ⟨cursor i⟩) ∧
      Page.gathered (ps ++ [p]) = (List.range total).map teamMember := by
  have hpage : ∀ i, ∃ a limit, i < pageCount total (max 1 size) →
      s.transport.answer? i = some a ∧ Catalog.members.page? d a =
        some ((teamBody total (max 1 size) i).page limit) := by
    intro i
    by_cases hi : i < pageCount total (max 1 size)
    · obtain ⟨a, limit, h⟩ := page?_of_forall₂ (d := d) has hq hi
      exact ⟨a, limit, fun _ => h⟩
    · exact ⟨.failure .timeout, .unreported, fun h => absurd h hi⟩
  choose answer limits hpage using hpage
  obtain ⟨m, hm⟩ : ∃ m, pageCount total (max 1 size) = m + 1 :=
    ⟨pageCount total (max 1 size) - 1, by rw [pageCount_eq]; omega⟩
  have hsize : 0 < max 1 size := by omega
  have hgathered := gathered_pages total hsize limits
  rw [hm, List.range_succ, List.map_append] at hgathered
  refine ⟨(List.range m).map fun i => (teamBody total (max 1 size) i).page (limits i),
    (teamBody total (max 1 size) m).page (limits m), answer m, ?chain, ?answered, ?page, ?last,
    ?count, ?cursors, hgathered⟩
  case chain =>
    intro i p hp
    obtain ⟨j, hj, rfl⟩ := Option.map_eq_some_iff.mp (List.getElem?_map ▸ hp)
    obtain ⟨hi, rfl⟩ := List.getElem?_eq_some_iff.mp hj
    rw [List.length_range] at hi
    rw [List.getElem_range]
    obtain ⟨ha, hp⟩ := hpage i (by omega)
    refine ⟨answer i, ha, hp, ?_, cursor_ne_empty i⟩
    simp [teamBody, PageBody.page, hm, hi]
  case answered => simpa using (hpage m (by omega)).1
  case page => exact (hpage m (by omega)).2
  case last => simp [teamBody, PageBody.page, hm]
  case count => simp [hm]
  case cursors => simp [teamBody, PageBody.page]

end Sample

namespace Feed

open Sample

variable {k : Connector} {s : Session} {ts : ℕ → String}

/-- **A host gets the sample team exactly once.** Whatever its size and that of its pages, a host
that feeds back the token of each page until it is empty makes one call for each page, at least
one. It gets the cursor of each page but the last, whose cursor does not count, and then the empty
token; each of these cursors is what the next call says. The members come in order, none is missing
and none comes twice. -/
theorem pass_over_sample_team (parent : Option ResourceId) (total size : ℕ)
    (hts : k.directory.client.Supplies s ts) {as rest : List Answer}
    (has : List.Forall₂ Answer.Holds (memberPages total size) as)
    (hq : s.transport.queue = as ++ rest) :
    ∃ (q : Pass Resource) (u : Session) (rs : List Http.Request),
      Pass.Follows ((Feed.users parent).page k) .start .empty s q u ∧
      Pass.run ((Feed.users parent).page k) .start s = (.ok q, u) ∧
      u.transport = ⟨rest, s.transport.standing, s.transport.sent ++ rs⟩ ∧
      rs.length = max 1 (total ⌈/⌉ max 1 size) ∧
      q.failed = none ∧
      q.tokens = (List.range (rs.length - 1)).map (fun i => ⟨cursor i⟩) ++ [.start] ∧
      (∃ r, rs[0]? = some r ∧
        r.url = k.directory.client.endpoints.url (.list .members .start)) ∧
      (∀ i, i + 1 < rs.length → ∃ r text, rs[i + 1]? = some r ∧
        r.url = k.directory.client.endpoints.url (.list .members .continuing) ∧
        r.body = some text ∧
        parse (Utf8.ofString text) = .ok (.object [("cursor", .string (cursor i))])) ∧
      q.items.map Resource.id = (List.range total).map (fun i => ⟨.user, memberId i⟩) ∧
      (q.items.map Resource.id).Nodup := by
  obtain ⟨ps, p, a, hc, ha, hp, hl, hlength, hcursors, hgathered⟩ := exists_pages has hq k.directory
  have hanswers : as.length = ps.length + 1 := by
    rw [hlength, ← has.length_eq]
    simp [memberPages]
  have hbudget : ps.length ≤ s.supply := by
    rw [Session.supply, hq, List.length_append]
    omega
  let rs := Catalog.members.requests k.directory ts
    (.start :: (List.range ps.length).map fun i => ⟨cursor i⟩)
  let q : Pass Resource := ⟨Users.resources parent (Page.gathered (ps ++ [p])),
    (List.range ps.length).map (fun i => ⟨cursor i⟩) ++ [.start], none⟩
  obtain ⟨u, hfollows, hrun, hut⟩ :
      ∃ u, Pass.Follows ((Feed.users parent).page k) .start .empty s q u ∧
        Pass.run ((Feed.users parent).page k) .start s = (.ok q, u) ∧
        u.transport = s.transport.after rs := by
    simp only [q, rs, ← hcursors]
    exact follow_of_chain (f := .users parent) hts hc ha hp hl hbudget .start .empty
  have hids : q.items.map Resource.id =
      (List.range total).map (fun i => ⟨.user, memberId i⟩) := by
    simp only [q]
    rw [hgathered, Users.resources, List.map_map, List.map_map]
    rfl
  have hrs : rs.length = ps.length + 1 := by simp [rs]
  have hrest : s.transport.queue.drop rs.length = rest := by
    rw [hq, hrs, ← hanswers, List.drop_left]
  have hfirst : rs[0]? = some (Catalog.members.request k.directory (ts 0) .start) := by
    simp [rs]
  refine ⟨q, u, rs, hfollows, hrun, ?transport, ?calls, rfl, ?tokens, ⟨_, hfirst, rfl⟩, ?cursors,
    hids, ?distinct⟩
  case transport => rw [hut, Transport.after, hrest]
  case calls => rw [hrs, hlength, pageCount_eq]
  case tokens => rw [hrs, Nat.add_sub_cancel]
  case cursors =>
    intro i hi
    obtain ⟨hurl, text, hbody, hparse⟩ := Catalog.members.request_of_cursor k.directory (ts (i + 1))
      (cursor_ne_empty i)
    refine ⟨_, text, ?_, hurl, hbody, hparse⟩
    have hm : i < ps.length := by omega
    simp [rs, Catalog.requests, hm]
  case distinct =>
    rw [hids]
    refine List.nodup_range.map fun i j h => ?_
    exact memberId_injective (ResourceId.mk.inj h).2

end Feed

/-! ### A sample -/

namespace Sample

/-- The answers with the pages of a team. -/
def teamAnswers (total size : ℕ) : List Answer :=
  (memberPages total size).map fun v => .response 200 [] (Utf8.ofString v.toText)

lemma holds_teamAnswers (total size : ℕ) :
    List.Forall₂ Answer.Holds (memberPages total size) (teamAnswers total size) := by
  rw [teamAnswers, List.forall₂_map_right_iff, List.forall₂_same]
  exact fun v _ => ⟨200, [], none, rfl, rfl⟩

end Sample

open Sample in
theorem Feed.pass_over_sample_team_of_five :
    (directory.client.Supplies (session (teamAnswers 5 2)) fun _ => "sl.token") ∧
      List.Forall₂ Answer.Holds (memberPages 5 2) (teamAnswers 5 2) ∧
      (session (teamAnswers 5 2)).transport.queue = teamAnswers 5 2 ++ [] ∧
      ∃ (q : Pass Resource) (u : Session),
        Pass.run ((Feed.users none).page ⟨directory⟩) .start (session (teamAnswers 5 2)) =
          (.ok q, u) ∧
        q.tokens = [⟨"AAGcursor-1"⟩, ⟨"AAGcursor-2"⟩, .start] ∧
        u.transport.queue = [] ∧ u.transport.sent.length = 3 ∧
        q.items.map Resource.id = [⟨.user, "dbmid:AAD00000"⟩, ⟨.user, "dbmid:AAD00001"⟩,
          ⟨.user, "dbmid:AAD00002"⟩, ⟨.user, "dbmid:AAD00003"⟩, ⟨.user, "dbmid:AAD00004"⟩] := by
  have hq : (session (teamAnswers 5 2)).transport.queue = teamAnswers 5 2 ++ [] :=
    (List.append_nil _).symm
  obtain ⟨q, u, rs, -, hrun, hu, hrs, -, htokens, -, -, hids, -⟩ :=
    pass_over_sample_team (k := ⟨directory⟩) none 5 2 (supplies _) (holds_teamAnswers 5 2) hq
  have hthree : rs.length = 3 := hrs
  refine ⟨supplies _, holds_teamAnswers 5 2, hq, q, u, hrun, ?_, by rw [hu], ?_, ?_⟩
  · rw [htokens, hthree]
    decide
  · rw [hu]
    simpa [session, Session.start] using hthree
  · rw [hids]
    decide

end TeamSync
