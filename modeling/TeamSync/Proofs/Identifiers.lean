import TeamSync.Proofs.Change
import TeamSync.Proofs.Feed
import TeamSync.Proofs.RoleDerivation

/-!
Identifiers, from the listing that a host gets them from to the request that uses them. What is
granted, revoked or ended is what was listed, for every string that can be an identifier.
-/

namespace TeamSync

open Json

/-! ### What a host has got -/

namespace Connector

variable (k : Connector)

/-- A host that lists groups gets a resource for an entry with some identifier. -/
def ListsGroup (id : String) (g : Resource) : Prop :=
  ∃ parent pt s page a, ∃ (p : Page Group) (i : ℕ),
    (k.perform (.list .group parent pt) s).1 = .ok (.resources page) ∧
    s.transport.next? = some a ∧ a.page? PageBody.groups k.directory.client.now = some p ∧
    p.items[i]?.map (·.id) = some id ∧ page.items[i]? = some g

/-- A host that lists users gets a resource for an entry with some identifier. -/
def ListsUser (id : String) (u : Resource) : Prop :=
  ∃ parent pt s page a, ∃ (p : Page Member) (i : ℕ),
    (k.perform (.list .user parent pt) s).1 = .ok (.resources page) ∧
    s.transport.next? = some a ∧ a.page? PageBody.members k.directory.client.now = some p ∧
    p.items[i]?.map (·.profile.memberId) = some id ∧ page.items[i]? = some u

/-- A host that lists roles gets a resource for a role with some identifier that a member holds. -/
def ListsRole (id : String) (r : Resource) : Prop :=
  ∃ parent pt s page, ∃ (all : Drained Member) (i : ℕ),
    (k.perform (.list .role parent pt) s).1 = .ok (.resources page) ∧
    (k.directory.members.drain s).1 = .ok all ∧
    (Roles.heldRoles all.items)[i]?.map (·.id) = some id ∧ page.items[i]? = some r

/-- A host that asks for the grants of a group gets one for an entry with some identifier and some
access. Entries whose access is not known do not count. -/
def GrantsAccess (g : Resource) (member access : String) (x : Grant) : Prop :=
  ∃ pt s page a, ∃ (p : Page GroupMember) (i : ℕ),
    (k.perform (.grants .group g pt) s).1 = .ok (.grants page) ∧
    s.transport.next? = some a ∧ a.page? PageBody.groupMembers k.directory.client.now = some p ∧
    (p.items.filter (·.knownAccess?.isSome))[i]?.map (fun e => (e.profile.memberId, e.access)) =
      some (member, access) ∧
    page.items[i]? = some x

/-- A host that asks for the grants of a role gets one for a member who holds it. -/
def GrantsRole (role : String) (r : Resource) (member : String) (x : Grant) : Prop :=
  ∃ pt s page, ∃ (all : Drained Member) (i : ℕ),
    (k.perform (.grants .role r pt) s).1 = .ok (.grants page) ∧
    (k.directory.members.drain s).1 = .ok all ∧
    (all.items.filter fun e => e.roles.any (·.id == role))[i]?.map (·.profile.memberId) =
      some member ∧
    page.items[i]? = some x

/-- With any usable access token a command sends one request to an operation, and the body of the
request parses to some value. -/
def Sends (cmd : Command) (op : Operation) (body : Value) : Prop :=
  ∀ s s₁ t, k.directory.client.token s = (.ok t, s₁) → Http.isHeaderValue (bearer t) →
    ∃ r text, (k.perform cmd s).2.transport = s.transport.after [r] ∧ r.method = "POST" ∧
      r.url = k.directory.client.endpoints.base ++ op.path ∧ r.body = some text ∧
      parse (Utf8.ofString text) = .ok body

end Connector

/-! ### What the listings give -/

lemma GroupAccess.name_of_ofTag? {tag : String} {a : GroupAccess} (h : ofTag? tag = some a) :
    a.name = tag := by
  unfold ofTag? at h
  split_ifs at h with hm ho
  · cases h; exact hm.symm
  · cases h; exact ho.symm

namespace Groups

/-- The grant of an entry has the place of that entry among those whose access is known. -/
lemma grantOf?_of_getElem? {r : Resource} {ms : List GroupMember} {i : ℕ} {e : GroupMember}
    {x : Grant} (he : (ms.filter (·.knownAccess?.isSome))[i]? = some e)
    (hx : (grantsOf r ms)[i]? = some x) : grantOf? r e = some x := by
  induction ms generalizing i with
  | nil => simp at he
  | cons m ms ih =>
    rcases hm : m.knownAccess? with _ | a
    · have hg : grantOf? r m = none := by simp [grantOf?, hm]
      rw [List.filter_cons_of_neg (by simp [hm])] at he
      rw [grantsOf, List.filterMap_cons_none hg] at hx
      exact ih he hx
    · have hg : grantOf? r m = some (.held (entitlement r a) ⟨.user, m.profile.memberId⟩) := by
        simp [grantOf?, hm]
      rw [List.filter_cons_of_pos (by simp [hm])] at he
      rw [grantsOf, List.filterMap_cons_some hg] at hx
      rcases i with _ | i
      · obtain rfl : m = e := by simpa using he
        simpa [hg] using hx
      · exact ih (by simpa using he) (by simpa [grantsOf] using hx)

end Groups

namespace Connector

variable {k : Connector} {id member access role : String} {g u r : Resource} {x : Grant}

lemma ListsGroup.id_eq (h : k.ListsGroup id g) : g.id = ⟨.group, id⟩ := by
  obtain ⟨parent, pt, s, page, a, p, i, hr, ha, hp, hid, hi⟩ := h
  rw [Feed.items_of_page (Feed.page_of_perform (f := .groups parent) hr) ha hp] at hi
  obtain ⟨e, he, rfl⟩ := Option.map_eq_some_iff.mp hid
  obtain rfl : Groups.resource e parent = g := by
    simpa [Feed.convert, Groups.resources, he] using hi
  rfl

lemma ListsUser.eq (h : k.ListsUser id u) :
    u.id = ⟨.user, id⟩ ∧ u.attributes.get? "team_member_id" = some (.string id) := by
  obtain ⟨parent, pt, s, page, a, p, i, hr, ha, hp, hid, hi⟩ := h
  rw [Feed.items_of_page (Feed.page_of_perform (f := .users parent) hr) ha hp] at hi
  obtain ⟨e, he, rfl⟩ := Option.map_eq_some_iff.mp hid
  obtain rfl : Users.resource e.profile parent = u := by
    simpa [Feed.convert, Users.resources, he] using hi
  exact ⟨rfl, by simp [Users.resource, Members.get?]⟩

lemma ListsRole.id_eq (h : k.ListsRole id r) : r.id = ⟨.role, id⟩ := by
  obtain ⟨parent, pt, s, page, all, i, hr, hd, hid, hi⟩ := h
  obtain ⟨as, hp⟩ := Roles.perform_list ⟨all, hd, rfl⟩ parent pt
  rw [hp, Except.ok.injEq, Reply.resources.injEq] at hr
  obtain ⟨e, he, rfl⟩ := Option.map_eq_some_iff.mp hid
  obtain rfl : Roles.resource e parent = r := by
    simpa [← hr, SyncPage.last, he] using hi
  rfl

/-- A grant of a group is that of a known access to the member of the entry. -/
lemma GrantsAccess.eq_held (h : k.GrantsAccess g member access x) (hg : g.id.kind = .group) :
    ∃ a : GroupAccess, a.name = access ∧
      x = .held (Groups.entitlement g a) ⟨.user, member⟩ := by
  obtain ⟨pt, s, page, a, p, i, hr, ha, hp, hid, hi⟩ := h
  rw [Feed.items_of_page (Feed.page_of_perform (f := .grants g hg) hr) ha hp] at hi
  obtain ⟨e, he, heq⟩ := Option.map_eq_some_iff.mp hid
  obtain ⟨rfl, rfl⟩ := Prod.mk.inj heq
  have hx := Groups.grantOf?_of_getElem? he hi
  obtain ⟨a, hacc, rfl⟩ := Option.map_eq_some_iff.mp hx
  exact ⟨a, GroupAccess.name_of_ofTag? hacc, rfl⟩

lemma GrantsRole.eq_held (h : k.GrantsRole role r member x) (hr : r.id = ⟨.role, role⟩) :
    x = .held (Roles.entitlement r) ⟨.user, member⟩ := by
  obtain ⟨pt, s, page, all, i, hp, hd, hid, hi⟩ := h
  obtain ⟨as, hp'⟩ := Roles.perform_grants ⟨all, hd, rfl⟩ (r := r) (by rw [hr]) pt
  rw [hp', Except.ok.injEq, Reply.grants.injEq] at hp
  obtain ⟨e, he, rfl⟩ := Option.map_eq_some_iff.mp hid
  have he' : (all.items.filter (Roles.holds · r.id.id))[i]? = some e := by
    rw [hr]
    exact he
  simpa [← hp, SyncPage.last, Roles.grantsOf, he'] using hi.symm

end Connector

/-! ### What is sent -/

/-- How a request names a group and a member. -/
def groupAddress (group : String) : Value :=
  .object [(".tag", .string "group_id"), ("group_id", .string group)]

def memberAddress (member : String) : Value :=
  .object [(".tag", .string "team_member_id"), ("team_member_id", .string member)]

namespace Change

/-- What the request of a change says, its members in the order of their keys. -/
def told : Change → Value
  | addToGroup group member access =>
    .object [("group", groupAddress group),
      ("members", .array [.object [("access_type", .object [(".tag", .string access.name)]),
        ("user", memberAddress member)]]),
      ("return_members", .bool false)]
  | removeFromGroup group member =>
    .object [("group", groupAddress group), ("return_members", .bool false),
      ("users", .array [memberAddress member])]
  | addRole member role =>
    .object [("new_roles", .array [.string role]), ("user", memberAddress member)]
  | clearRoles member => .object [("new_roles", .array []), ("user", memberAddress member)]
  | suspend member | unsuspend member => .object [("user", memberAddress member)]

lemma parse_body (ch : Change) : parse (Utf8.ofString ch.body.toText) = .ok ch.told := by
  cases ch
  all_goals
    rw [parse_toText rfl (by simp [body, Directory.rolesBody, Directory.memberBody,
      Directory.userJson, UserSelector.toJson, GroupSelector.toJson, tagJson, Value.depth,
      membersDepth, elementsDepth, depthLimit])]
    simp (disch := decide) only [body, told, groupAddress, memberAddress, Directory.rolesBody,
      Directory.memberBody, Directory.userJson, UserSelector.toJson, GroupSelector.toJson, tagJson,
      Value.sorted, sortedMembers, sortedElements, List.map_cons, List.map_nil, Members.ofList,
      List.foldl_cons, List.foldl_nil, Members.insert_nil, Members.insert_of_lt,
      Members.insert_of_gt]

lemma sends {k : Connector} {ch : Change} {cmd : Command} (h : ch.AskedBy cmd) :
    k.Sends cmd ch.op ch.told := fun _ _ _ ht hl =>
  ⟨_, _, (perform_apply h ht hl).2, rfl, rfl, rfl, parse_body ch⟩

end Change

lemma Directory.remove_transport {d : Directory} (member : String) {s s₁ : Session} {t : String}
    (ht : d.client.token s = (.ok t, s₁)) (hl : Http.isHeaderValue (bearer t)) :
    (d.remove member s).2.transport =
      s.transport.after [d.client.requestOf .removeMember t (memberBody member)] := by
  have hs : s₁.transport = s.transport := by simpa [ht] using d.client.token_transport s
  have hcall := d.client.roundTrip_apply .removeMember (memberBody member)
    (d.client.read removalRecord.decoder .removeMember)
    (d.client.readLog removalRecord.decoder .removeMember) ht hl
  rw [← Client.call_eq, hs] at hcall
  rcases hr : d.client.read removalRecord.decoder .removeMember s.transport.next? with e | a <;>
    rw [hr] at hcall
  · rw [remove, Step.bind_of_error hcall, Session.spend_transport, hs]
  · rw [remove, Step.bind_of_ok hcall]
    split_ifs <;> exact (Session.spend_transport ..).trans (by rw [hs])

namespace Connector

variable {k : Connector}

lemma perform_entitlements {kind : ResourceKind} {r : Resource} {es : List Entitlement}
    (h : (k.syncer kind).entitlements r = .ok es) (s : Session) :
    (k.perform (.entitlements kind r) s).1 = .ok (.entitlements es) := by
  rw [perform, h]
  rfl

/-- Ending an account sends one request, which names the member. -/
lemma sends_delete {u : ResourceId} {member : String} (hu : u = ⟨.user, member⟩) :
    k.Sends (.deleteAccount .user u) .removeMember (.object [("user", memberAddress member)]) := by
  intro s s₁ t ht hl
  refine ⟨k.directory.client.requestOf .removeMember t (Directory.memberBody member), _, ?_, rfl,
    rfl, rfl, Change.parse_body (.suspend member)⟩
  have hp : k.perform (.deleteAccount .user u) =
      .annotations <$> Users.delete k.directory u := rfl
  have hk : Step.ofExcept (u.expectKind .user) s = (.ok member, s) := by
    simp [hu, ResourceId.expectKind]
  have hr := k.directory.remove_transport member ht hl
  rw [hp, Step.map_apply, Users.delete, Step.bind_of_ok hk]
  rcases h : k.directory.remove member s with ⟨e | a, s₂⟩ <;> rw [h] at hr
  · rw [Step.bind_of_error (by rw [Step.rescue_log_apply, h])]
    exact hr
  · rw [Step.bind_of_ok (by rw [Step.rescue_log_apply, h])]
    exact hr

/-- **Identifiers survive** from a listing to what is done with it. -/
theorem identifiers_survive (k : Connector) :
    (∀ group g, k.ListsGroup group g → ∀ member access x, k.GrantsAccess g member access x →
      (∀ s, ∃ es, (k.perform (.entitlements .group g) s).1 = .ok (.entitlements es) ∧
        x.entitlement ∈ es) ∧
      x.entitlement.slug = access ∧
      k.Sends (.revoke .group x) .removeGroupMembers
        (.object [("group", groupAddress group), ("return_members", .bool false),
          ("users", .array [memberAddress member])]) ∧
      ∀ u, k.ListsUser member u → k.Sends (.grant .group u x.entitlement) .addGroupMembers
        (.object [("group", groupAddress group),
          ("members", .array [.object [("access_type", .object [(".tag", .string access)]),
            ("user", memberAddress member)]]),
          ("return_members", .bool false)])) ∧
    (∀ role r, k.ListsRole role r → ∀ member x, k.GrantsRole role r member x →
      (∀ s, ∃ es, (k.perform (.entitlements .role r) s).1 = .ok (.entitlements es) ∧
        x.entitlement ∈ es) ∧
      k.Sends (.revoke .role x) .setAdminPermissions
        (.object [("new_roles", .array []), ("user", memberAddress member)]) ∧
      ∀ u, k.ListsUser member u → k.Sends (.grant .role u x.entitlement) .setAdminPermissions
        (.object [("new_roles", .array [.string role]), ("user", memberAddress member)])) ∧
    (∀ member u, k.ListsUser member u →
      u.id = ⟨.user, member⟩ ∧ u.attributes.get? "team_member_id" = some (.string member) ∧
      k.Sends (.deleteAccount .user u.id) .removeMember
        (.object [("user", memberAddress member)]) ∧
      (member ≠ "" → ∀ args, args.get? "user_id" = some (.string member) →
        k.Sends (.invoke "disable_user" args) .suspendMember
          (.object [("user", memberAddress member)]) ∧
        k.Sends (.invoke "enable_user" args) .unsuspendMember
          (.object [("user", memberAddress member)]))) ∧
    (∀ (c : Catalog) (b : PageBody c.Item) (status : ℕ) (headers : List (String × String))
      (arrival : Arrival), Http.isSuccess status = true →
      c.page? k.directory (.response status headers
          (Utf8.ofString (b.toJson c.itemsKey c.entryJson).toText) arrival) =
        some (b.page
          (.ofResponse status (.ofList headers) (arrival.instant k.directory.client.now)))) := by
  refine ⟨?groups, ?roles, ?users,
    fun c b status headers arrival hs => c.page?_toText _ b hs headers arrival⟩
  case groups =>
    intro group g hg member access x hx
    have hid := hg.id_eq
    obtain ⟨a, rfl, rfl⟩ := hx.eq_held (by rw [hid])
    refine ⟨fun s => ?_, rfl, ?_, fun u hu => ?_⟩
    · have he : (k.syncer .group).entitlements g =
          .ok (GroupAccess.all.map (Groups.entitlement g)) := by
        simp [syncer, Groups.syncer, Groups.entitlements, hid, ResourceId.expectKind]
      exact ⟨_, perform_entitlements he s,
        List.mem_map.mpr ⟨a, by cases a <;> simp [GroupAccess.all], rfl⟩⟩
    · exact Change.sends (.revokeGroup (a := a) rfl hid rfl)
    · exact Change.sends (.grantGroup hu.eq.1 hid rfl)
  case roles =>
    intro role r hr member x hx
    have hid := hr.id_eq
    obtain rfl := hx.eq_held hid
    refine ⟨fun s => ?_, ?_, fun u hu => ?_⟩
    · have he : (k.syncer .role).entitlements r = .ok [Roles.entitlement r] := by
        simp [syncer, Roles.syncer, Roles.entitlements, hid, ResourceId.expectKind]
      exact ⟨_, perform_entitlements he s, List.mem_singleton.mpr rfl⟩
    · exact Change.sends (.revokeRole rfl hid rfl)
    · exact Change.sends (.grantRole hu.eq.1 hid rfl)
  case users =>
    intro member u hu
    refine ⟨hu.eq.1, hu.eq.2, sends_delete hu.eq.1, fun hm args ha => ⟨?_, ?_⟩⟩
    · exact Change.sends (.disable ha hm)
    · exact Change.sends (.enable ha hm)

end Connector

/-! ### A sample -/

namespace Sample

def connector : Connector := ⟨directory⟩

/-- A last page is what a host gets, converted, if it is the answer to the first call. -/
lemma perform_written (f : Feed) (items : List f.catalog.Item) :
    (connector.perform (f.command .start) (session [written f.catalog ⟨"", false, items⟩])).1 =
      .ok (f.reply ⟨f.convert items, .start, [.rateLimit .unreported]⟩) := by
  obtain ⟨s, hf⟩ := fetch_written f.catalog ⟨"", false, items⟩ (fun h => by cases h.1) .start []
  have hp := Feed.page_of_ok (k := connector) hf
  rw [Feed.perform_eq, Step.map_apply, hp]
  rfl

/-- A group and a member whose identifiers have to be escaped or take several bytes. -/
def oddGroup : Group := ⟨"g\"\\\n", "", "", 0⟩

def oddMember : Member := ⟨{ Profile.empty with memberId := "\x00é😀" }, [⟨"r\t", "", ""⟩]⟩

def oddGroupResource : Resource := Groups.resource oddGroup none

def oddUserResource : Resource := Users.resource oddMember.profile none

def oddRoleResource : Resource := Roles.resource ⟨"r\t", "", ""⟩ none

/-- What the odd member is granted: the odd group and the odd role. -/
def oddGroupGrant : Grant := .held (Groups.entitlement oddGroupResource .owner) ⟨.user, "\x00é😀"⟩

def oddRoleGrant : Grant := .held (Roles.entitlement oddRoleResource) ⟨.user, "\x00é😀"⟩

lemma listsGroup_odd : connector.ListsGroup "g\"\\\n" oddGroupResource :=
  ⟨none, .start, _, _, _, _, 0, perform_written (.groups none) [oddGroup], rfl,
    page?_written .groups _, rfl, rfl⟩

lemma listsUser_odd : connector.ListsUser "\x00é😀" oddUserResource :=
  ⟨none, .start, _, _, _, _, 0, perform_written (.users none) [oddMember], rfl,
    page?_written .members _, rfl, rfl⟩

lemma grantsAccess_odd : connector.GrantsAccess oddGroupResource "\x00é😀" "owner" oddGroupGrant :=
  ⟨.start, _, _, _, _, 0,
    perform_written (.grants oddGroupResource rfl)
      [⟨Profile.empty, "guest"⟩, ⟨oddMember.profile, "owner"⟩], rfl,
    page?_written (.groupMembers "g\"\\\n") _, rfl, rfl⟩

lemma listsRole_odd : connector.ListsRole "r\t" oddRoleResource := by
  obtain ⟨all, hd, hi⟩ := lists_written [oddMember]
  obtain ⟨as, hp⟩ := Roles.perform_list (k := connector) ⟨all, hd, hi⟩ none .start
  exact ⟨none, .start, _, _, all, 0, hp, hd, by rw [hi]; rfl, rfl⟩

lemma grantsRole_odd : connector.GrantsRole "r\t" oddRoleResource "\x00é😀" oddRoleGrant := by
  obtain ⟨all, hd, hi⟩ := lists_written [oddMember]
  obtain ⟨as, hp⟩ :=
    Roles.perform_grants (k := connector) ⟨all, hd, hi⟩ (r := oddRoleResource) rfl .start
  exact ⟨.start, _, _, all, 0, hp, hd, by rw [hi]; rfl, rfl⟩

end Sample

open Sample in
theorem Connector.identifiers_survive_odd :
    connector.ListsGroup "g\"\\\n" oddGroupResource ∧ connector.ListsUser "\x00é😀" oddUserResource ∧
      connector.GrantsAccess oddGroupResource "\x00é😀" "owner" oddGroupGrant ∧
      connector.ListsRole "r\t" oddRoleResource ∧
      connector.GrantsRole "r\t" oddRoleResource "\x00é😀" oddRoleGrant ∧
      connector.Sends (.grant .group oddUserResource oddGroupGrant.entitlement) .addGroupMembers
        (.object [("group", groupAddress "g\"\\\n"),
          ("members", .array [.object [("access_type", .object [(".tag", .string "owner")]),
            ("user", memberAddress "\x00é😀")]]),
          ("return_members", .bool false)]) ∧
      connector.Sends (.grant .role oddUserResource oddRoleGrant.entitlement) .setAdminPermissions
        (.object [("new_roles", .array [.string "r\t"]), ("user", memberAddress "\x00é😀")]) ∧
      connector.Sends (.invoke "disable_user" [("user_id", .string "\x00é😀")]) .suspendMember
        (.object [("user", memberAddress "\x00é😀")]) := by
  obtain ⟨hg, hr, hu, -⟩ := identifiers_survive connector
  refine ⟨listsGroup_odd, listsUser_odd, grantsAccess_odd, listsRole_odd, grantsRole_odd,
    ?_, ?_, ?_⟩
  · exact (hg _ _ listsGroup_odd _ _ _ grantsAccess_odd).2.2.2 _ listsUser_odd
  · exact (hr _ _ listsRole_odd _ _ grantsRole_odd).2.2 _ listsUser_odd
  · exact ((hu _ _ listsUser_odd).2.2.2 (by decide) _ rfl).1

end TeamSync
