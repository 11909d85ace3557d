import TeamSync.Proofs.Arguments
import TeamSync.Proofs.Identifiers

/-!
Keys of entitlements and grants. Their parts stand between colons, and the identifiers among them
may hold colons too, so the parts are found from the ends: the kind is what stands before the first
colon, the slug what stands behind the last, and the principal what stands behind the last mark of a
user.
-/

namespace TeamSync

/-! ### Cutting at a colon -/

namespace Text

variable {c : Char} {as as' bs bs' : List Char}

/-- A text is cut in one way at the first of its separators. -/
lemma append_cons_inj_left (ha : c ∉ as) (ha' : c ∉ as') (h : as ++ c :: bs = as' ++ c :: bs') :
    as = as' ∧ bs = bs' := by
  have hcut {ds : List Char} (hd : c ∉ ds) (es : List Char) :
      (ds ++ c :: es).takeWhile (· ≠ c) = ds := by
    have hall : ∀ d ∈ ds, decide (d ≠ c) = true := fun d hmem =>
      decide_eq_true fun heq => hd (heq ▸ hmem)
    rw [List.takeWhile_append_of_pos hall]
    simp
  obtain rfl : as = as' := by rw [← hcut ha bs, h, hcut ha' bs']
  exact ⟨rfl, (List.cons.inj (List.append_cancel_left h)).2⟩

/-- A text is cut in one way at the last of its separators. -/
lemma append_cons_inj_right (hb : c ∉ bs) (hb' : c ∉ bs') (h : as ++ c :: bs = as' ++ c :: bs') :
    as = as' ∧ bs = bs' := by
  have hrev : bs.reverse ++ c :: as.reverse = bs'.reverse ++ c :: as'.reverse := by
    simpa using congrArg List.reverse h
  obtain ⟨hbs, has⟩ := append_cons_inj_left (by simpa using hb) (by simpa using hb') hrev
  exact ⟨List.reverse_inj.mp has, List.reverse_inj.mp hbs⟩

end Text

/-! ### Parts of a key -/

namespace ResourceKind

lemma mem_all (kind : ResourceKind) : kind ∈ all := by
  cases kind <;> decide

lemma name_injective : Function.Injective name := by
  have hall : ∀ a ∈ all, ∀ b ∈ all, a.name = b.name → a = b := by decide
  exact fun a b => hall a a.mem_all b b.mem_all

lemma colon_not_mem_name (kind : ResourceKind) : ':' ∉ kind.name.toList := by
  cases kind <;> decide

/-- A slug holds no colon, and is not what a principal is marked with. -/
lemma plain_of_mem_slugs {s : String} (h : s ∈ all.flatMap slugs) :
    ':' ∉ s.toList ∧ s ≠ ResourceKind.user.name := by
  have hall : ∀ s ∈ all.flatMap slugs, ':' ∉ s.toList ∧ s ≠ ResourceKind.user.name := by decide
  exact hall s h

lemma mem_slugs {kind : ResourceKind} {s : String} (h : s ∈ kind.slugs) : s ∈ all.flatMap slugs :=
  List.mem_flatMap.mpr ⟨kind, kind.mem_all, h⟩

end ResourceKind

namespace Entitlement

variable {r r' : Resource} {slug slug' name name' description description' : String}

lemma toList_id_assignment : (assignment r slug name description).id.toList =
    r.id.kind.name.toList ++ ':' :: (r.id.id.toList ++ ':' :: slug.toList) := by
  simp [assignment, ResourceId.text]

/-- **An entitlement has its kind, its identifier and its slug in its key.** -/
theorem id_assignment_inj (hs : slug ∈ ResourceKind.all.flatMap ResourceKind.slugs)
    (hs' : slug' ∈ ResourceKind.all.flatMap ResourceKind.slugs) :
    (assignment r slug name description).id = (assignment r' slug' name' description').id ↔
      r.id.kind = r'.id.kind ∧ r.id.id = r'.id.id ∧ slug = slug' := by
  rw [← String.toList_inj, toList_id_assignment, toList_id_assignment]
  constructor
  · intro h
    obtain ⟨hkind, hrest⟩ := Text.append_cons_inj_left (ResourceKind.colon_not_mem_name _)
      (ResourceKind.colon_not_mem_name _) h
    obtain ⟨hid, hslug⟩ := Text.append_cons_inj_right (ResourceKind.plain_of_mem_slugs hs).1
      (ResourceKind.plain_of_mem_slugs hs').1 hrest
    exact ⟨ResourceKind.name_injective (String.toList_inj.mp hkind), String.toList_inj.mp hid,
      String.toList_inj.mp hslug⟩
  · rintro ⟨hkind, hid, rfl⟩
    rw [hkind, hid]

end Entitlement

/-! ### Principals -/

namespace Grant

/-- What stands between an entitlement and the user who holds it. -/
def userMark : List Char := ":user:".toList

variable {as es es' ms ms' : List Char}

/-- If a mark comes first in a text that has a mark further on, the two share a colon, or the second
stands in what is behind the first. -/
lemma overlap_cases (h : userMark ++ ms = as ++ (userMark ++ ms')) :
    as = [] ∨ as = ":user".toList ∨ userMark <:+: ms := by
  have hdrop := congrArg (List.drop as.length) h
  rw [List.drop_left] at hdrop
  rcases Nat.lt_or_ge as.length userMark.length with hlt | hge
  · rw [List.drop_append_of_le_length (Nat.le_of_lt hlt)] at hdrop
    -- what is left of the first mark begins as the second does
    have hborder : userMark.drop as.length <+: userMark :=
      List.prefix_of_prefix_length_le ⟨ms, hdrop⟩ (List.prefix_append _ _) (by simp)
    have hall : ∀ n < userMark.length, userMark.drop n <+: userMark → n = 0 ∨ n = 5 := by decide
    have htake : as = userMark.take as.length := by
      have htake := congrArg (List.take as.length) h
      rw [List.take_left, List.take_append_of_le_length (Nat.le_of_lt hlt)] at htake
      exact htake.symm
    rcases hall _ hlt hborder with hn | hn
    · exact .inl (List.length_eq_zero_iff.mp hn)
    · rw [hn] at htake
      exact .inr (.inl htake)
  · rw [List.drop_append, List.drop_eq_nil_of_le hge, List.nil_append] at hdrop
    have hmark : userMark <:+: ms.drop (as.length - userMark.length) :=
      hdrop ▸ (List.prefix_append userMark ms').isInfix
    exact .inr (.inr (hmark.trans (List.drop_suffix _ _).isInfix))

/-- **Where no user is marked in what is behind a mark, the mark is found again**, unless what is in
front of it ends as a mark does. -/
lemma append_userMark_inj (hms : ¬userMark <:+: ms) (hms' : ¬userMark <:+: ms')
    (hes : ∀ ds, es ≠ ds ++ ":user".toList) (hes' : ∀ ds, es' ≠ ds ++ ":user".toList)
    (h : es ++ (userMark ++ ms) = es' ++ (userMark ++ ms')) : es = es' ∧ ms = ms' := by
  -- the one whose mark comes first is cut where the other is
  have hcut {es es' as ms ms' : List Char} (hms : ¬userMark <:+: ms)
      (hes' : ∀ ds, es' ≠ ds ++ ":user".toList) (hfront : es' = es ++ as)
      (hback : userMark ++ ms = as ++ (userMark ++ ms')) : es = es' ∧ ms = ms' := by
    rcases overlap_cases hback with rfl | rfl | hin
    · exact ⟨by rw [hfront, List.append_nil], List.append_cancel_left hback⟩
    · exact absurd hfront (hes' es)
    · exact absurd hin hms
  rcases List.append_eq_append_iff.mp h with ⟨as, hfront, hback⟩ | ⟨as, hfront, hback⟩
  · exact hcut hms hes' hfront hback
  · exact (hcut hms' hes hfront hback).imp Eq.symm Eq.symm

variable {r r' : Resource} {slug slug' name name' description description' member member' : String}

lemma toList_id_held {e : Entitlement} :
    (held e ⟨.user, member⟩).id.toList = e.id.toList ++ (userMark ++ member.toList) := by
  simp [held, ResourceId.text, ResourceKind.name, userMark]

/-- The key of an entitlement does not end as a mark does. -/
lemma id_assignment_ne (hs : slug ∈ ResourceKind.all.flatMap ResourceKind.slugs) (ds : List Char) :
    (Entitlement.assignment r slug name description).id.toList ≠ ds ++ ":user".toList := by
  rw [Entitlement.toList_id_assignment, ← List.cons_append, ← List.append_assoc]
  intro h
  obtain ⟨hcolon, hne⟩ := ResourceKind.plain_of_mem_slugs hs
  obtain ⟨-, hslug⟩ := Text.append_cons_inj_right hcolon
    (ResourceKind.colon_not_mem_name .user) h
  exact hne (String.toList_inj.mp hslug)

/-- **A grant has the key of its entitlement and its principal in its key**, if no user is marked in
the identifier of the principal. -/
theorem id_held_inj (hs : slug ∈ ResourceKind.all.flatMap ResourceKind.slugs)
    (hs' : slug' ∈ ResourceKind.all.flatMap ResourceKind.slugs)
    (hm : ¬userMark <:+: member.toList) (hm' : ¬userMark <:+: member'.toList) :
    (held (.assignment r slug name description) ⟨.user, member⟩).id =
        (held (.assignment r' slug' name' description') ⟨.user, member'⟩).id ↔
      r.id.kind = r'.id.kind ∧ r.id.id = r'.id.id ∧ slug = slug' ∧ member = member' := by
  constructor
  · intro h
    rw [← String.toList_inj, toList_id_held, toList_id_held] at h
    obtain ⟨he, hmember⟩ :=
      append_userMark_inj hm hm' (id_assignment_ne hs) (id_assignment_ne hs') h
    have hparts := (Entitlement.id_assignment_inj hs hs').mp (String.toList_inj.mp he)
    exact ⟨hparts.1, hparts.2.1, hparts.2.2, String.toList_inj.mp hmember⟩
  · rintro ⟨hkind, hid, hslug, rfl⟩
    have he : (Entitlement.assignment r slug name description).id =
        (Entitlement.assignment r' slug' name' description').id :=
      (Entitlement.id_assignment_inj hs hs').mpr ⟨hkind, hid, hslug⟩
    rw [held, held, he]

/-- The proviso is needed: here one key stands for two grants. -/
example : (held (Groups.entitlement (Groups.resource ⟨"g", "", "", 0⟩ none) .member)
      ⟨.user, "m:member:user:n"⟩).id =
    (held (Groups.entitlement (Groups.resource ⟨"g:member:user:m", "", "", 0⟩ none) .member)
      ⟨.user, "n"⟩).id := by decide

end Grant

/-! ### What is granted -/

namespace Connector

variable {k : Connector} {r : Resource} {pt : PageToken} {s : Session} {page : SyncPage Grant}

/-- A host that asks for the grants of a resource gets this one among them. -/
def Emits (k : Connector) (g : Grant) : Prop :=
  ∃ kind r pt s page, (k.perform (.grants kind r pt) s).1 = .ok (.grants page) ∧ g ∈ page.items

/-- Only for users there is something to get of a resource of another kind. -/
lemma kind_eq_of_grants {kind : ResourceKind} {reply : Reply} (hk : kind ≠ .user)
    (h : (k.perform (.grants kind r pt) s).1 = .ok reply) : r.id.kind = kind := by
  by_contra hr
  have hmalformed : (Command.grants kind r pt).Malformed := ⟨hk, hr⟩
  obtain ⟨e, es, hx, -⟩ :=
    (k.guarded_perform (.grants kind r pt)).refuses (not_not.mpr hmalformed) s
  rw [hx] at h
  cases h

/-- The grants of a group are those of the entries of a page. -/
lemma items_of_groupGrants (hr : r.id.kind = .group)
    (h : (k.perform (.grants .group r pt) s).1 = .ok (.grants page)) :
    ∃ ms, page.items = Groups.grantsOf r ms := by
  rcases hf : ((Catalog.groupMembers r.id.id).pages k.directory).fetch pt s with ⟨e | p, s₁⟩
  · cases (Feed.perform_of_fetch (f := .grants r hr) hf).symm.trans h
  · cases (Feed.perform_of_fetch (f := .grants r hr) hf).symm.trans h
    exact ⟨p.items, rfl⟩

/-- The grants of a role are those of the members who hold it. -/
lemma items_of_roleGrants (hr : r.id.kind = .role)
    (h : (k.perform (.grants .role r pt) s).1 = .ok (.grants page)) :
    ∃ ms, page.items = Roles.grantsOf r ms := by
  rcases hd : k.directory.members.drain s with ⟨e | all, s₁⟩
  · cases (Roles.perform_grants_of_drain hd hr pt).symm.trans h
  · cases (Roles.perform_grants_of_drain hd hr pt).symm.trans h
    exact ⟨all.items, rfl⟩

/-- What is emitted is held by a user, of an entitlement with a slug of the kind. -/
lemma Emits.eq_held {g : Grant} (h : k.Emits g) :
    ∃ (r : Resource) (slug name description member : String), slug ∈ r.id.kind.slugs ∧
      g = .held (.assignment r slug name description) ⟨.user, member⟩ := by
  obtain ⟨kind, r, pt, s, page, hp, hg⟩ := h
  cases kind with
  | user =>
    cases hp
    exact absurd hg List.not_mem_nil
  | group =>
    have hr := kind_eq_of_grants (by decide) hp
    obtain ⟨ms, hitems⟩ := items_of_groupGrants hr hp
    rw [hitems, Groups.grantsOf, List.mem_filterMap] at hg
    obtain ⟨m, -, hm⟩ := hg
    obtain ⟨a, -, rfl⟩ := Option.map_eq_some_iff.mp hm
    exact ⟨r, a.name, _, _, _, by rw [hr]; cases a <;> decide, rfl⟩
  | role =>
    have hr := kind_eq_of_grants (by decide) hp
    obtain ⟨ms, hitems⟩ := items_of_roleGrants hr hp
    rw [hitems, Roles.grantsOf, List.mem_map] at hg
    obtain ⟨m, -, rfl⟩ := hg
    exact ⟨r, Roles.slug, _, _, _, by rw [hr]; decide, rfl⟩

/-- **Identifiers of entitlements and grants are keys.** Two entitlements with known slugs have the
same identifier just if they have the same slug and are of resources with the same kind and the same
identifier. Two grants that hosts get from connectors have the same identifier just if all this and
the identifiers of their principals are the same, provided that no user is marked in the latter. -/
theorem identifiers_are_keys (k k' : Connector) :
    (∀ (r r' : Resource) (slug slug' name name' description description' : String),
      slug ∈ ResourceKind.all.flatMap ResourceKind.slugs →
      slug' ∈ ResourceKind.all.flatMap ResourceKind.slugs →
      ((Entitlement.assignment r slug name description).id =
          (Entitlement.assignment r' slug' name' description').id ↔
        r.id.kind = r'.id.kind ∧ r.id.id = r'.id.id ∧ slug = slug')) ∧
    (∀ g g' : Grant, k.Emits g → k'.Emits g' → ¬":user:".toList <:+: g.principal.id.toList →
      ¬":user:".toList <:+: g'.principal.id.toList →
      (g.id = g'.id ↔
        g.entitlement.resource.id.kind = g'.entitlement.resource.id.kind ∧
        g.entitlement.resource.id.id = g'.entitlement.resource.id.id ∧
        g.entitlement.slug = g'.entitlement.slug ∧ g.principal.id = g'.principal.id)) := by
  refine ⟨fun _ _ _ _ _ _ _ _ => Entitlement.id_assignment_inj, fun g g' hg hg' hm hm' => ?_⟩
  obtain ⟨r, slug, name, description, member, hs, rfl⟩ := hg.eq_held
  obtain ⟨r', slug', name', description', member', hs', rfl⟩ := hg'.eq_held
  exact Grant.id_held_inj (ResourceKind.mem_slugs hs) (ResourceKind.mem_slugs hs') hm hm'

end Connector

/-! ### A sample -/

namespace Sample

/-- A group with a colon in its identifier. -/
def colonGroup (id : String) : Resource := Groups.resource ⟨id, "", "", 0⟩ none

/-- The one grant of a group that a host gets if one member is listed. -/
def soleGrant (group member : String) : Grant :=
  .held (Groups.entitlement (colonGroup group) .member) ⟨.user, member⟩

lemma emits_soleGrant (group member : String) : connector.Emits (soleGrant group member) :=
  ⟨.group, colonGroup group, .start, _, _,
    perform_written (.grants (colonGroup group) rfl)
      [⟨{ Profile.empty with memberId := member }, "member"⟩],
    List.mem_singleton.mpr rfl⟩

end Sample

open Sample in
theorem Connector.identifiers_are_keys_colons :
    connector.Emits (soleGrant "g:1:member" "user:x") ∧
      connector.Emits (soleGrant "g:1:member:user" "x") ∧
      ¬":user:".toList <:+: "user:x".toList ∧ ¬":user:".toList <:+: "x".toList ∧
      "member" ∈ ResourceKind.all.flatMap ResourceKind.slugs ∧
      "owner" ∈ ResourceKind.all.flatMap ResourceKind.slugs ∧
      (soleGrant "g:1:member" "user:x").id ≠ (soleGrant "g:1:member:user" "x").id ∧
      (Entitlement.assignment (colonGroup "g:member") "owner" "" "").id ≠
        (Entitlement.assignment (colonGroup "g") "member" "" "").id := by
  obtain ⟨hentitlements, hgrants⟩ := identifiers_are_keys connector connector
  have hmember : "member" ∈ ResourceKind.all.flatMap ResourceKind.slugs := by decide
  have howner : "owner" ∈ ResourceKind.all.flatMap ResourceKind.slugs := by decide
  have hm : ¬":user:".toList <:+: "user:x".toList := by decide
  have hm' : ¬":user:".toList <:+: "x".toList := by decide
  refine ⟨emits_soleGrant _ _, emits_soleGrant _ _, hm, hm', hmember, howner, fun h => ?_,
    fun h => ?_⟩
  · have hid := ((hgrants _ _ (emits_soleGrant _ _) (emits_soleGrant _ _) hm hm').mp h).2.1
    exact absurd hid (by decide)
  · have hid := ((hentitlements _ _ _ _ _ _ _ _ howner hmember).mp h).2.1
    exact absurd hid (by decide)

end TeamSync
