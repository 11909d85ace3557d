import TeamSync.Proofs.CallOutcome
import TeamSync.Proofs.EnvelopeParts
import TeamSync.Proofs.Identifiers

/-!
Entries of a group's members with an access that is not known. They are granted nothing and change
nothing else: a page says the same with and without them, also when it has no other entries. What
makes a page fail is that it announces another and does not say how to get it, whatever its entries
are.
-/

namespace TeamSync

open Json

/-! ### Entries -/

namespace GroupMember

/-- An access that stands for no entitlement. -/
def Unknown (m : GroupMember) : Prop := m.access ≠ "member" ∧ m.access ≠ "owner"

lemma knownAccess?_eq_none_iff {m : GroupMember} : m.knownAccess? = none ↔ m.Unknown := by
  simp only [knownAccess?, GroupAccess.ofTag?, Unknown]
  split_ifs with hm ho <;> simp [*]

/-- What the members of an object say as an entry. -/
structure Shows (es : Written) (m : GroupMember) : Prop where
  member : ∀ ps : Written, es.Has "profile" (.object ps .closed) →
    ps.Says "team_member_id" m.profile.memberId
  tagged : ∀ (ts : Written) t, es.Has "access_type" (.object ts .closed) → ts.Says ".tag" t →
    m.access = t
  untagged : ∀ ts : Written, es.Has "access_type" (.object ts .closed) → ".tag" ∉ ts.keys →
    m.access = ""
  without : "access_type" ∉ es.keys → m.access = ""

variable {es : Written} {m : GroupMember} {depth : ℕ}

lemma nodup_record : (record.fields.map (·.name)).Nodup := by
  simp [record, Field.required, Field.defaulted]

lemma slot_profile : record.Slot "profile" Profile.record.decoder GroupMember.profile :=
  Record.slot_of_mem nodup_record List.mem_cons_self (fun _ _ => rfl)
    (by simp [record, Field.required, Field.defaulted, Field.leaves_make])

lemma slot_access : record.Slot "access_type" tagDecoder GroupMember.access :=
  Record.slot_of_mem nodup_record (List.mem_cons_of_mem _ List.mem_cons_self) (fun _ _ => rfl)
    (by simp [record, Field.required, Field.defaulted, Field.leaves_make])

/-- An entry is read as what its members say. -/
lemma shows_of_decoder (hs : skimMembers es = .ok ())
    (h : record.decoder (depth + 2) (.object es .closed) = .ok m) : Shows es m := by
  obtain ⟨hprofile, -⟩ := Record.slot_of_decoder nodup_record hs slot_profile h
  obtain ⟨haccess, hno⟩ := Record.slot_of_decoder nodup_record hs slot_access h
  have hslot {ts : Written} (hts : es.Has "access_type" (.object ts .closed)) :=
    Record.slot_of_decoder (nodup_tagRecord "Tag") (skim_object_iff.mp (skim_of_has hs hts)).2
      (slot_tagRecord "Tag") (haccess _ hts)
  refine ⟨fun ps hps => ?_, fun ts t hts ht => ?_, fun ts hts => (hslot hts).2, hno⟩
  · exact Profile.says_memberId (skim_object_iff.mp (skim_of_has hs hps)).2 (hprofile _ hps)
  · obtain ⟨s, hsays, hread⟩ := ht
    have hstring := (hslot hts).1 _ hsays
    exact Except.ok.inj (hstring.symm.trans (Decoder.string_eq_ok_iff.mpr ⟨s, rfl, hread⟩))

end GroupMember

/-! ### Pages as they are written -/

namespace Groups

/-- What the members of an object say as a page: its entries, in order. -/
structure Lists (ms : Written) (b : PageBody GroupMember) : Prop where
  entries : ∀ ns, ms.Has "members" (.array ns .closed) →
    List.Forall₂ (fun n m => ∀ es, n = .object es .closed → GroupMember.Shows es m) ns b.items
  none : "members" ∉ ms.keys → b.items = []

lemma nodup_record : (PageBody.groupMembers.fields.map (·.name)).Nodup := by
  simp [PageBody.groupMembers, PageBody.record, Field.defaulted]

lemma slot_items :
    PageBody.groupMembers.Slot "members" GroupMember.record.decoder.list PageBody.items :=
  Record.slot_of_mem nodup_record
    (List.mem_cons_of_mem _ (List.mem_cons_of_mem _ List.mem_cons_self)) (fun _ _ => rfl)
    (by simp [PageBody.groupMembers, PageBody.record, Field.defaulted, Field.leaves_make])

/-- A page is read entry by entry. -/
lemma lists_of_decode {body : List UInt8} {ms : Written} {b : PageBody GroupMember}
    (hb : IsObject body ms) (hd : PageBody.groupMembers.decoder.decode body = .ok b) :
    Lists ms b := by
  obtain ⟨hhas, hno⟩ := Record.slot_of_decoder nodup_record hb.skim slot_items
    ((hb.decode_eq PageBody.groupMembers.decoder).symm.trans hd)
  refine ⟨fun ns hn => ?_, hno⟩
  have hread := (List.forall₂_and_left _ _).mpr
    ⟨(skim_array_iff.mp (skim_of_has hb.skim hn)).2, Decoder.list_eq_ok_iff.mp (hhas _ hn)⟩
  refine hread.imp ?_
  rintro n m ⟨hskim, hm⟩ es rfl
  exact GroupMember.shows_of_decoder (skim_object_iff.mp hskim).2 hm

/-! ### Entries that are left out -/

/-- Lists of entries that differ in entries of unknown access, at any places. -/
inductive UpToUnknown : List GroupMember → List GroupMember → Prop where
  | nil : UpToUnknown [] []
  | both {ms ms' : List GroupMember} (m : GroupMember) (h : UpToUnknown ms ms') :
      UpToUnknown (m :: ms) (m :: ms')
  | removed {ms ms' : List GroupMember} {m : GroupMember} (hm : m.Unknown)
      (h : UpToUnknown ms ms') : UpToUnknown (m :: ms) ms'
  | inserted {ms ms' : List GroupMember} {m : GroupMember} (hm : m.Unknown)
      (h : UpToUnknown ms ms') : UpToUnknown ms (m :: ms')

variable {r : Resource} {m : GroupMember} {ms ms' : List GroupMember}

lemma grantOf?_of_unknown (h : m.Unknown) : grantOf? r m = none := by
  rw [grantOf?, GroupMember.knownAccess?_eq_none_iff.mpr h]
  rfl

/-- Entries of unknown access do not change what is granted. -/
lemma UpToUnknown.grantsOf_eq (h : UpToUnknown ms ms') : grantsOf r ms = grantsOf r ms' := by
  induction h with
  | nil => rfl
  | both m _ ih =>
    simp only [grantsOf, List.filterMap_cons] at ih ⊢
    rw [ih]
  | removed hm _ ih =>
    rw [← ih]
    exact List.filterMap_cons_none (grantOf?_of_unknown hm)
  | inserted hm _ ih =>
    rw [ih]
    exact (List.filterMap_cons_none (grantOf?_of_unknown hm)).symm

/-- What is granted of some entries: what each with a known access has, in order. -/
lemma map_grantsOf (ms : List GroupMember) :
    (grantsOf r ms).map (fun x => (x.entitlement.resource, x.entitlement.slug, x.principal)) =
      (ms.filter fun m => m.access = "member" ∨ m.access = "owner").map
        fun m => (r, m.access, ⟨.user, m.profile.memberId⟩) := by
  induction ms with
  | nil => rfl
  | cons m ms ih =>
    by_cases hm : m.Unknown
    · have hskip : ¬(m.access = "member" ∨ m.access = "owner") := not_or.mpr hm
      rw [List.filter_cons_of_neg (by simpa using hskip), ← ih]
      exact congrArg _ (List.filterMap_cons_none (grantOf?_of_unknown hm))
    · have hkeep : m.access = "member" ∨ m.access = "owner" := by
        rw [GroupMember.Unknown] at hm
        tauto
      obtain ⟨a, ha⟩ : ∃ a, GroupAccess.ofTag? m.access = some a := by
        rw [← Option.isSome_iff_exists, GroupAccess.ofTag?_isSome]
        simpa [ResourceKind.slugs] using hkeep
      have hg : grantOf? r m = some (.held (entitlement r a) ⟨.user, m.profile.memberId⟩) := by
        rw [grantOf?, GroupMember.knownAccess?, ha]
        rfl
      have hcons : grantsOf r (m :: ms) =
          .held (entitlement r a) ⟨.user, m.profile.memberId⟩ :: grantsOf r ms :=
        List.filterMap_cons_some hg
      rw [List.filter_cons_of_pos (by simpa using hkeep), hcons, List.map_cons, List.map_cons, ih,
        ← GroupAccess.name_of_ofTag? ha]
      rfl

end Groups

namespace Connector

variable {k : Connector} {g : Resource} {s : Session} {status : ℕ}
  {headers : List (String × String)} {body : List UInt8} {arrival : Arrival}
  {b : PageBody GroupMember}

/-- A token is yielded that can be sent, and the next answer is a success with a page for a body. -/
structure GetsPage (k : Connector) (s : Session) (status : ℕ) (headers : List (String × String))
    (body : List UInt8) (arrival : Arrival) (b : PageBody GroupMember) : Prop where
  token : ∃ t, (k.directory.client.token s).1 = .ok t ∧ Http.isHeaderValue t = true
  answer : s.transport.next? = some (.response status headers body arrival)
  success : 200 ≤ status ∧ status ≤ 299
  decodes : PageBody.groupMembers.decoder.decode body = .ok b

/-- What the grants of a page are: one for each entry with a known access, in order, unless the page
announces another without a cursor. -/
structure GrantsOf (g : Resource) (b : PageBody GroupMember) (limit : RateLimit)
    (r : Except Error Reply) : Prop where
  noCursor : b.hasMore = true → b.cursor = "" →
    r = .error (.pagination (.missingCursor Listing.groupMembers.name))
  granted : (b.hasMore = true → b.cursor ≠ "") → ∃ page, r = .ok (.grants page) ∧
    page.items.map (fun x => (x.entitlement.resource, x.entitlement.slug, x.principal)) =
      (b.items.filter fun m => m.access = "member" ∨ m.access = "owner").map
        (fun m => (g, m.access, ⟨.user, m.profile.memberId⟩)) ∧
    page.next = (if b.hasMore then ⟨b.cursor⟩ else .start) ∧ page.annotations = [.rateLimit limit]

/-- The grants of a page are made of it alone. -/
lemma perform_grants_of_page (hg : g.id.kind = .group) (pt : PageToken)
    (h : k.GetsPage s status headers body arrival b) :
    (k.perform (.grants .group g pt) s).1 =
      ((b.page (.ofResponse status (.ofList headers)
        (arrival.instant k.directory.client.now))).validated .groupMembers).map
          fun p => .grants (.ofPage p (Groups.grantsOf g)) := by
  obtain ⟨t, ht, hl⟩ := h.token
  rw [← isHeaderValue_bearer_eq] at hl
  have hp := (Catalog.groupMembers g.id.id).page?_of_decode k.directory headers arrival
    (Http.isSuccess_iff.mpr h.success) h.decodes
  have hfetch := (Catalog.groupMembers g.id.id).fetch_apply k.directory pt (Prod.ext ht rfl) hl
  rw [h.answer, Catalog.read_of_page? _ _ pt hp] at hfetch
  exact Feed.perform_of_fetch (f := .grants g hg) hfetch

lemma grantsOf_perform (hg : g.id.kind = .group) (pt : PageToken)
    (h : k.GetsPage s status headers body arrival b) :
    GrantsOf g b (.ofResponse status (.ofList headers) (arrival.instant k.directory.client.now))
      (k.perform (.grants .group g pt) s).1 := by
  rw [perform_grants_of_page hg pt h]
  refine ⟨fun hmore hcursor => ?_, fun hnext => ?_⟩
  · rw [Page.validated_of_strays ⟨hmore, hcursor⟩]
    rfl
  · rw [Page.validated_of_not_strays fun hstrays => hnext hstrays.1 hstrays.2]
    exact ⟨_, rfl, Groups.map_grantsOf b.items, rfl, rfl⟩

/-- Pages that differ in entries of unknown access come to the same. -/
lemma perform_grants_congr {s' : Session} {body' : List UInt8} {b' : PageBody GroupMember}
    (hg : g.id.kind = .group) (pt : PageToken) (h : k.GetsPage s status headers body arrival b)
    (h' : k.GetsPage s' status headers body' arrival b') (hcursor : b'.cursor = b.cursor)
    (hmore : b'.hasMore = b.hasMore) (hitems : Groups.UpToUnknown b.items b'.items) :
    (k.perform (.grants .group g pt) s').1 = (k.perform (.grants .group g pt) s).1 := by
  rw [perform_grants_of_page hg pt h, perform_grants_of_page hg pt h']
  generalize RateLimit.ofResponse status (.ofList headers)
    (arrival.instant k.directory.client.now) = limit
  -- whether a page says how to go on, and how, does not depend on its entries
  have hstray : (b'.page limit).Strays ↔ (b.page limit).Strays := by
    simp only [Page.Strays, PageBody.page, hmore, hcursor]
  have hnext : (b'.page limit).nextToken = (b.page limit).nextToken := by
    rw [Page.nextToken, Page.nextToken, PageBody.page, PageBody.page, hmore, hcursor]
  have hitems : Groups.grantsOf g b'.items = Groups.grantsOf g b.items := hitems.grantsOf_eq.symm
  by_cases hs : (b.page limit).Strays
  · rw [Page.validated_of_strays hs, Page.validated_of_strays (hstray.mpr hs)]
  · rw [Page.validated_of_not_strays hs, Page.validated_of_not_strays (hstray.not.mpr hs)]
    simp only [Except.map, SyncPage.ofPage, hnext]
    simp only [PageBody.page, hitems]

/-- **Unknown access is granted nothing and changes nothing.** The grants of a page of a group are
one for each entry whose access is known, in order, with the next token and the rate limit beside
them; only a page that announces another without a cursor fails. With entries of unknown access put
in or taken out, at any places, the same comes of the page. The entries are those that are written,
in order, and where nothing is said of an access it is read as the empty one, which is unknown. -/
theorem grants_upTo_unknown (k : Connector) (g : Resource) (hg : g.id.kind = .group)
    (pt : PageToken) (s : Session) (status : ℕ) (headers : List (String × String))
    (body : List UInt8) (arrival : Arrival) (b : PageBody GroupMember)
    (h : k.GetsPage s status headers body arrival b) :
    GrantsOf g b (.ofResponse status (.ofList headers) (arrival.instant k.directory.client.now))
      (k.perform (.grants .group g pt) s).1 ∧
    (∀ s' body' b', k.GetsPage s' status headers body' arrival b' → b'.cursor = b.cursor →
      b'.hasMore = b.hasMore → Groups.UpToUnknown b.items b'.items →
      (k.perform (.grants .group g pt) s').1 = (k.perform (.grants .group g pt) s).1) ∧
    ∀ ms, IsObject body ms → Groups.Lists ms b :=
  ⟨grantsOf_perform hg pt h, fun _ _ _ h' => perform_grants_congr hg pt h h',
    fun _ hb => Groups.lists_of_decode hb h.decodes⟩

end Connector

/-! ### A sample -/

namespace Sample

def accessGroup : Resource := Groups.resource ⟨"g", "", "", 0⟩ none

/-- A page of its members with more to come, and the session in which it waits. -/
def accessPage (cursor : String) (ms : List GroupMember) : PageBody GroupMember :=
  ⟨cursor, true, ms⟩

def accessing (cursor : String) (ms : List GroupMember) : Session :=
  session [written (.groupMembers "g") (accessPage cursor ms)]

def accessEntry (member access : String) : GroupMember :=
  ⟨{ Profile.empty with memberId := member }, access⟩

lemma getsPage_accessing (cursor : String) (ms : List GroupMember) :
    ∃ body, connector.GetsPage (accessing cursor ms) 200 [] body none (accessPage cursor ms) :=
  ⟨_, ⟨_, rfl, by decide +kernel⟩, rfl, by omega,
    Decoder.decode_toText ((Catalog.groupMembers "g").whole_toJson _)
      ((Catalog.groupMembers "g").decoder_node _)⟩

end Sample

open Sample in
/-- A page without a cursor fails, also where all that is in it is an entry of unknown access. -/
theorem Connector.grants_without_cursor :
    accessGroup.id.kind = .group ∧
    (∃ body, connector.GetsPage (accessing "" [accessEntry "m:1" "unknown"]) 200 [] body none
      (accessPage "" [accessEntry "m:1" "unknown"])) ∧
    (accessEntry "m:1" "unknown").Unknown ∧
    ∀ page, (connector.perform (.grants .group accessGroup .start)
      (accessing "" [accessEntry "m:1" "unknown"])).1 ≠ .ok (.grants page) := by
  obtain ⟨body, h⟩ := getsPage_accessing "" [accessEntry "m:1" "unknown"]
  refine ⟨rfl, ⟨body, h⟩, ⟨by decide, by decide⟩, fun page => ?_⟩
  rw [perform_grants_of_page rfl .start h, Page.validated_of_strays ⟨rfl, rfl⟩]
  exact nofun

open Sample in
/-- Three entries, of which one has a known access, come to what that one comes to alone. -/
theorem Connector.grants_upTo_unknown_between :
    accessGroup.id.kind = .group ∧
    (∃ body, connector.GetsPage (accessing "c" [accessEntry "m:1" "owner"]) 200 [] body none
      (accessPage "c" [accessEntry "m:1" "owner"])) ∧
    ∃ page, (connector.perform (.grants .group accessGroup .start)
        (accessing "c" [accessEntry "m:0" "", accessEntry "m:1" "owner",
          accessEntry "m:2" "Owner"])).1 = .ok (.grants page) ∧
      page.items.map (fun x => (x.entitlement.resource, x.entitlement.slug, x.principal)) =
        [(accessGroup, "owner", ⟨.user, "m:1"⟩)] ∧ page.next = ⟨"c"⟩ := by
  obtain ⟨body, h⟩ := getsPage_accessing "c" [accessEntry "m:1" "owner"]
  obtain ⟨body', h'⟩ := getsPage_accessing "c"
    [accessEntry "m:0" "", accessEntry "m:1" "owner", accessEntry "m:2" "Owner"]
  have hg : accessGroup.id.kind = .group := rfl
  obtain ⟨hgrants, hsame, -⟩ := grants_upTo_unknown connector _ hg .start _ _ _ _ _ _ h
  obtain ⟨page, hpage, hitems, hnext, -⟩ := hgrants.granted (by decide)
  have hunknown : Groups.UpToUnknown [accessEntry "m:1" "owner"]
      [accessEntry "m:0" "", accessEntry "m:1" "owner", accessEntry "m:2" "Owner"] :=
    .inserted ⟨by decide, by decide⟩ (.both _ (.inserted ⟨by decide, by decide⟩ .nil))
  exact ⟨hg, ⟨body, h⟩, page, (hsame _ _ _ h' rfl rfl hunknown).trans hpage, hitems, hnext⟩

end TeamSync
