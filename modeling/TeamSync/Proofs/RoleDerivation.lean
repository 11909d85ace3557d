import Mathlib.Data.List.Nodup
import TeamSync.Command
import TeamSync.Proofs.Wire

/-!
Roles gathered from the members who hold them. The list of roles has each role that occurs, once and
where it first occurs; the grants of a role have each member who holds it, once. Both are read off
the same members, so what is listed is what is granted.
-/

namespace TeamSync

/-! ### First occurrences -/

namespace Roles

variable {seen : List String} {rs : List Role} {r : Role}

lemma unseen_of_mem (h : r.id ∈ seen) : unseen seen (r :: rs) = unseen seen rs := by
  simp [unseen, h]

lemma unseen_of_not_mem (h : r.id ∉ seen) :
    unseen seen (r :: rs) = r :: unseen (r.id :: seen) rs := by
  simp [unseen, h]

/-- Every identifier that occurs and has not been seen is found. -/
lemma mem_map_unseen {id : String} :
    id ∈ (unseen seen rs).map (·.id) ↔ id ∉ seen ∧ id ∈ rs.map (·.id) := by
  induction rs generalizing seen with
  | nil => simp [unseen]
  | cons r rs ih =>
    by_cases h : r.id ∈ seen
    · rw [unseen_of_mem h, ih, List.map_cons, List.mem_cons]
      constructor
      · exact fun ⟨h1, h2⟩ => ⟨h1, .inr h2⟩
      · rintro ⟨h1, rfl | h2⟩
        · exact absurd h h1
        · exact ⟨h1, h2⟩
    · rw [unseen_of_not_mem h, List.map_cons, List.mem_cons, ih, List.map_cons, List.mem_cons,
        List.mem_cons]
      constructor
      · rintro (rfl | ⟨h1, h2⟩)
        · exact ⟨h, .inl rfl⟩
        · exact ⟨fun hs => h1 (.inr hs), .inr h2⟩
      · rintro ⟨h1, h2⟩
        by_cases hid : id = r.id
        · exact .inl hid
        · exact .inr ⟨by simp [hid, h1], h2.resolve_left hid⟩

lemma id_not_mem_of_mem_unseen (h : r ∈ unseen seen rs) : r.id ∉ seen :=
  (mem_map_unseen.mp (List.mem_map_of_mem h)).1

/-- What is found is where its identifier first occurs. -/
lemma find?_of_mem_unseen (h : r ∈ unseen seen rs) : rs.find? (·.id == r.id) = some r := by
  induction rs generalizing seen with
  | nil => simp [unseen] at h
  | cons q rs ih =>
    by_cases hq : q.id ∈ seen
    · rw [unseen_of_mem hq] at h
      have hne : q.id ≠ r.id := fun heq => id_not_mem_of_mem_unseen h (heq ▸ hq)
      rw [List.find?_cons_of_neg (by simpa using hne), ih h]
    · rw [unseen_of_not_mem hq] at h
      rcases List.mem_cons.mp h with rfl | h
      · simp
      · have hne : q.id ≠ r.id := fun heq => id_not_mem_of_mem_unseen h (by simp [heq])
        rw [List.find?_cons_of_neg (by simpa using hne), ih h]

/-- What is found stands in the order of first occurrences. -/
lemma pairwise_unseen : (unseen seen rs).Pairwise fun a b =>
    (rs.map (·.id)).idxOf a.id < (rs.map (·.id)).idxOf b.id := by
  induction rs generalizing seen with
  | nil => simp [unseen]
  | cons q rs ih =>
    -- an identifier other than the first stands one place further on
    have hshift {a b : Role} (ha : q.id ≠ a.id) (hb : q.id ≠ b.id)
        (h : (rs.map (·.id)).idxOf a.id < (rs.map (·.id)).idxOf b.id) :
        ((q :: rs).map (·.id)).idxOf a.id < ((q :: rs).map (·.id)).idxOf b.id := by
      rw [List.map_cons, List.idxOf_cons_ne _ ha, List.idxOf_cons_ne _ hb]
      omega
    by_cases hq : q.id ∈ seen
    · rw [unseen_of_mem hq]
      refine ih.imp_of_mem fun ha hb h => hshift ?_ ?_ h
      · exact fun heq => id_not_mem_of_mem_unseen ha (heq ▸ hq)
      · exact fun heq => id_not_mem_of_mem_unseen hb (heq ▸ hq)
    · rw [unseen_of_not_mem hq, List.pairwise_cons]
      have hne {a : Role} (ha : a ∈ unseen (q.id :: seen) rs) : q.id ≠ a.id :=
        fun heq => id_not_mem_of_mem_unseen ha (by simp [heq])
      refine ⟨fun b hb => ?_, ih.imp_of_mem fun ha hb h => hshift (hne ha) (hne hb) h⟩
      rw [List.map_cons, List.idxOf_cons_self, List.idxOf_cons_ne _ (hne hb)]
      omega

/-- Some members hold a role exactly if it occurs among their roles. -/
lemma holds_iff {m : Member} {id : String} : holds m id = true ↔ ∃ r ∈ m.roles, r.id = id := by
  simp [holds]

lemma mem_map_heldRoles {ms : List Member} {id : String} :
    id ∈ (heldRoles ms).map (·.id) ↔ ∃ m ∈ ms, holds m id = true := by
  rw [heldRoles, mem_map_unseen]
  simp only [List.not_mem_nil, not_false_eq_true, true_and, List.mem_map, List.mem_flatMap,
    holds_iff]
  constructor
  · rintro ⟨r, ⟨m, hm, hr⟩, rfl⟩
    exact ⟨m, hm, r, hr, rfl⟩
  · rintro ⟨m, hm, r, hr, rfl⟩
    exact ⟨r, ⟨m, hm, hr⟩, rfl⟩

/-! ### Pairs of members and roles -/

/-- The members who hold a role, each beside the role. -/
def pairsOf (ms : List Member) (id : String) : List (String × String) :=
  (ms.filter (holds · id)).map fun m => (m.profile.memberId, id)

lemma mem_pairsOf {ms : List Member} {id m r : String} :
    (m, r) ∈ pairsOf ms id ↔
      r = id ∧ ∃ e ∈ ms, e.profile.memberId = m ∧ holds e r = true := by
  simp only [pairsOf, List.mem_map, List.mem_filter, Prod.mk.injEq]
  constructor
  · rintro ⟨e, ⟨he, hh⟩, rfl, rfl⟩
    exact ⟨rfl, e, he, rfl, hh⟩
  · rintro ⟨rfl, e, he, rfl, hh⟩
    exact ⟨e, ⟨he, hh⟩, rfl, rfl⟩

/-- If no member occurs twice, the members who hold a role are told apart. -/
lemma nodup_holders {ms : List Member} (h : (ms.map (·.profile.memberId)).Nodup) (id : String) :
    ((ms.filter (holds · id)).map (·.profile.memberId)).Nodup :=
  h.sublist (List.filter_sublist.map _)

lemma nodup_pairsOf {ms : List Member} (h : (ms.map (·.profile.memberId)).Nodup) (id : String) :
    (pairsOf ms id).Nodup := by
  have hp : pairsOf ms id =
      ((ms.filter (holds · id)).map (·.profile.memberId)).map fun m => (m, id) := by
    simp [pairsOf]
  rw [hp]
  exact (nodup_holders h id).map fun _ _ he => (Prod.mk.inj he).1

/-- The pairs of all roles are those that there are. -/
lemma mem_flatMap_pairsOf {ms : List Member} {m r : String} :
    (m, r) ∈ (heldRoles ms).flatMap (fun role => pairsOf ms role.id) ↔
      ∃ e ∈ ms, e.profile.memberId = m ∧ holds e r = true := by
  simp only [List.mem_flatMap, mem_pairsOf]
  constructor
  · rintro ⟨role, -, -, h⟩
    exact h
  · rintro ⟨e, he, hm, hh⟩
    obtain ⟨role, hrole, rfl⟩ := List.mem_map.mp (mem_map_heldRoles.mpr ⟨e, he, hh⟩)
    exact ⟨role, hrole, rfl, e, he, hm, hh⟩

/-- If no member occurs twice, no pair does. -/
lemma nodup_flatMap_pairsOf {ms : List Member} (h : (ms.map (·.profile.memberId)).Nodup) :
    ((heldRoles ms).flatMap fun role => pairsOf ms role.id).Nodup := by
  refine List.nodup_flatMap.mpr ⟨fun role _ => nodup_pairsOf h role.id, ?_⟩
  refine pairwise_unseen.imp fun {a b} hlt => ?_
  rintro ⟨m, r⟩ ha hb
  obtain ⟨rfl, -⟩ := mem_pairsOf.mp ha
  obtain ⟨hab, -⟩ := mem_pairsOf.mp hb
  rw [hab] at hlt
  exact Nat.lt_irrefl _ hlt

end Roles

/-! ### The listing of roles and their grants -/

/-- All members, as a drain from a session yields them. -/
def Directory.Lists (d : Directory) (s : Session) (ms : List Member) : Prop :=
  ∃ all, (d.members.drain s).1 = .ok all ∧ all.items = ms

namespace Roles

variable {k : Connector} {s : Session} {ms : List Member}

lemma perform_list (h : k.directory.Lists s ms) (parent : Option ResourceId) (pt : PageToken) :
    ∃ as, (k.perform (.list .role parent pt) s).1 =
      .ok (.resources (.last ((heldRoles ms).map (resource · parent)) as)) := by
  obtain ⟨all, hd, rfl⟩ := h
  have hl : list k.directory parent pt s =
      (.ok (.last ((heldRoles all.items).map (resource · parent)) [.rateLimit all.rateLimit]), _) :=
    (Step.bind_of_ok (Prod.ext hd rfl) _).trans (Step.bind_of_ok (Step.log_apply ..) _)
  exact ⟨_, congrArg Prod.fst (Step.bind_of_ok hl _)⟩

/-- What is replied to a question for the grants of a role is made of what the drain comes to. -/
lemma perform_grants_of_drain {s₁ : Session} {res : Except Error (Drained Member)}
    (hd : k.directory.members.drain s = (res, s₁)) {r : Resource} (hr : r.id.kind = .role)
    (pt : PageToken) :
    (k.perform (.grants .role r pt) s).1 =
      res.map fun all => .grants (.last (grantsOf r all.items) [.rateLimit all.rateLimit]) := by
  have hk : Step.ofExcept (r.id.expectKind .role) s = (.ok r.id.id, s) := by
    simp [ResourceId.expectKind, hr]
  have hp : k.perform (.grants .role r pt) s = (Reply.grants <$> grants k.directory r pt) s := rfl
  rw [hp, Step.map_apply, grants, Step.bind_of_ok hk]
  rcases res with e | all
  · rw [Step.bind_of_error hd]
    rfl
  · rw [Step.bind_of_ok hd]
    rfl

lemma perform_grants (h : k.directory.Lists s ms) {r : Resource} (hr : r.id.kind = .role)
    (pt : PageToken) :
    ∃ as, (k.perform (.grants .role r pt) s).1 = .ok (.grants (.last (grantsOf r ms) as)) := by
  obtain ⟨all, hd, rfl⟩ := h
  exact ⟨_, perform_grants_of_drain (Prod.ext hd rfl) hr pt⟩

lemma grantsOf_ne_nil_iff {r : Resource} :
    grantsOf r ms ≠ [] ↔ ∃ m ∈ ms, holds m r.id.id = true := by
  simp [grantsOf, List.filter_eq_nil_iff]

/-- The grants of a role are the pairs of the role. -/
lemma pairs_grantsOf (R : Resource) (ms : List Member) :
    (grantsOf R ms).map (fun g => (g.principal.id, g.entitlement.resource.id.id)) =
      pairsOf ms R.id.id := by
  simp [grantsOf, pairsOf, Grant.held, entitlement, Entitlement.assignment]

/-- The grants of a role are made to those who hold it. -/
lemma principals_grantsOf (R : Resource) (ms : List Member) :
    (grantsOf R ms).map (·.principal) =
      ((ms.filter (holds · R.id.id)).map (·.profile.memberId)).map (ResourceId.mk .user) := by
  simp [grantsOf, Grant.held]

/-- **Roles are derived from the members who hold them.** From a session in which a drain yields
some members, the list of roles has each identifier that occurs among their roles, in the order of
first occurrences and as it first occurs, and there is no other page. The grants of a role have each
member who holds it, once for each record and in order, and there is no other page. So a role is
listed exactly if it has grants. If no member occurs twice, the grants of all listed roles are the
pairs of a member and a role held, each once, and no role is granted to a member twice. -/
theorem derived_from_members (h : k.directory.Lists s ms) :
    ∃ rs : List Role,
      (∀ parent pt, ∃ as, (k.perform (.list .role parent pt) s).1 = .ok (.resources
        ⟨rs.map fun r => ⟨⟨.role, r.id⟩, r.name, parent,
          [("description", .string r.description), ("id", .string r.id), ("name", .string r.name)],
          none⟩, .start, as⟩)) ∧
      (∀ id, id ∈ rs.map (·.id) ↔ ∃ m ∈ ms, ∃ r ∈ m.roles, r.id = id) ∧
      (rs.Pairwise fun a b => ((ms.flatMap (·.roles)).map (·.id)).idxOf a.id <
        ((ms.flatMap (·.roles)).map (·.id)).idxOf b.id) ∧
      (∀ r ∈ rs, (ms.flatMap (·.roles)).find? (·.id == r.id) = some r) ∧
      (∀ (R : Resource) (u : Session) (pt : PageToken), R.id.kind = .role →
        k.directory.Lists u ms → ∃ page,
          (k.perform (.grants .role R pt) u).1 = .ok (.grants page) ∧ page.next = .start ∧
          page.items.map (fun g => (g.principal, g.entitlement.resource, g.entitlement.slug)) =
            (ms.filter fun m => m.roles.any (·.id == R.id.id)).map
              (fun m => (⟨.user, m.profile.memberId⟩, R, "member")) ∧
          (R.id.id ∈ rs.map (·.id) ↔ page.items ≠ [])) ∧
      ((ms.map (·.profile.memberId)).Nodup → ∀ granted : Role → List Grant,
        (∀ r ∈ rs, ∃ R u pt as, R.id = ⟨.role, r.id⟩ ∧ k.directory.Lists u ms ∧
          (k.perform (.grants .role R pt) u).1 = .ok (.grants ⟨granted r, .start, as⟩)) →
        ((rs.flatMap granted).map
          fun g => (g.principal.id, g.entitlement.resource.id.id)).Nodup ∧
        (∀ m r, (m, r) ∈ (rs.flatMap granted).map
            (fun g => (g.principal.id, g.entitlement.resource.id.id)) ↔
          ∃ e ∈ ms, e.profile.memberId = m ∧ ∃ role ∈ e.roles, role.id = r) ∧
        ∀ r ∈ rs, ((granted r).map (·.principal)).Nodup) := by
  refine ⟨heldRoles ms, perform_list h, ?occurs, pairwise_unseen,
    fun r hr => find?_of_mem_unseen hr, ?grants, ?together⟩
  case occurs =>
    intro id
    simp only [mem_map_heldRoles, holds_iff]
  case grants =>
    intro R u pt hR hu
    obtain ⟨as, hp⟩ := perform_grants hu hR pt
    refine ⟨_, hp, rfl, ?_, ?_⟩
    · simp only [SyncPage.last, grantsOf, List.map_map]
      rfl
    · rw [mem_map_heldRoles, SyncPage.last, grantsOf_ne_nil_iff]
  case together =>
    intro hn granted hg
    -- what was granted of a role is what the members say of it
    have heq : ∀ r ∈ heldRoles ms, ∃ R : Resource, R.id = ⟨.role, r.id⟩ ∧
        granted r = grantsOf R ms := by
      intro r hr
      obtain ⟨R, u, pt, as, hR, hu, hp⟩ := hg r hr
      obtain ⟨as', hp'⟩ := perform_grants hu (r := R) (by rw [hR]) pt
      rw [hp', Except.ok.injEq, Reply.grants.injEq] at hp
      exact ⟨R, hR, (congrArg SyncPage.items hp).symm⟩
    have hpairs : ((heldRoles ms).flatMap granted).map
        (fun g => (g.principal.id, g.entitlement.resource.id.id)) =
        (heldRoles ms).flatMap fun role => pairsOf ms role.id := by
      rw [List.map_flatMap]
      refine List.flatMap_congr fun r hr => ?_
      obtain ⟨R, hR, hgr⟩ := heq r hr
      rw [hgr, pairs_grantsOf, hR]
    rw [hpairs]
    refine ⟨nodup_flatMap_pairsOf hn, fun m r => ?_, fun r hr => ?_⟩
    · rw [mem_flatMap_pairsOf]
      simp only [holds_iff]
    · obtain ⟨R, hR, hgr⟩ := heq r hr
      rw [hgr, principals_grantsOf]
      exact (nodup_holders hn R.id.id).map fun _ _ he => (ResourceId.mk.inj he).2

end Roles

/-! ### A sample -/

namespace Sample

/-- A record of a member with roles of some identifiers, the names of which tell the records
apart. -/
def holder (id : String) (roles : List String) : Member :=
  ⟨{ Profile.empty with memberId := id }, roles.map fun role => ⟨role, id ++ role, ""⟩⟩

/-- Members of whom two hold a role and one holds a role twice. -/
def holders : List Member :=
  [holder "m:1" ["b", "a", "b"], holder "m:2" [], holder "m:3" ["a", "c"]]

lemma lists_written (ms : List Member) :
    directory.Lists (session [written .members ⟨"", false, ms⟩]) ms := by
  obtain ⟨s, hf⟩ := fetch_written .members ⟨"", false, ms⟩ (fun h => by cases h.1) .start []
  have hd := Catalog.drain_of_drains (d := directory) (c := .members) (.last hf rfl)
  exact ⟨_, congrArg Prod.fst hd, rfl⟩

end Sample

open Sample in
theorem Roles.derived_from_members_holders :
    directory.Lists (session [written .members ⟨"", false, holders⟩]) holders ∧
      (holders.map (·.profile.memberId)).Nodup ∧
      ∃ rs : List Role, (∀ id, id ∈ rs.map (·.id) ↔ id = "a" ∨ id = "b" ∨ id = "c") := by
  refine ⟨lists_written holders, by decide, ?_⟩
  obtain ⟨rs, -, hocc, -⟩ := derived_from_members (k := ⟨directory⟩) (lists_written holders)
  refine ⟨rs, fun id => (hocc id).trans ?_⟩
  simp only [holders, holder, List.map_cons, List.map_nil, List.mem_cons, List.not_mem_nil,
    exists_eq_or_imp, exists_eq_left, or_false, false_and, exists_false]
  grind

end TeamSync
