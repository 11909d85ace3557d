import Mathlib.Tactic.ByContra
import TeamSync.Command
import TeamSync.Proofs.Call
import TeamSync.Proofs.Setup
import TeamSync.Sample

/-!
The changes that are safe to repeat, from what a host asks for to what it is told. An answer that
says that the change is in effect already counts as a success; no other failure does.
-/

namespace TeamSync

open Json

/-- A change that is safe to repeat, with what it is about. -/
inductive Change where
  | addToGroup (group member : String) (access : GroupAccess)
  | removeFromGroup (group member : String)
  | addRole (member role : String)
  | clearRoles (member : String)
  | suspend (member : String)
  | unsuspend (member : String)

namespace Change

def kind : Change → MutationKind
  | addToGroup .. => .addToGroup
  | removeFromGroup .. => .removeFromGroup
  | addRole .. => .addRole
  | clearRoles _ => .clearRoles
  | suspend _ => .suspend
  | unsuspend _ => .unsuspend

def op : Change → Operation
  | addToGroup .. => .addGroupMembers
  | removeFromGroup .. => .removeGroupMembers
  | addRole .. | clearRoles _ => .setAdminPermissions
  | suspend _ => .suspendMember
  | unsuspend _ => .unsuspendMember

def body : Change → Value
  | addToGroup group member access =>
    .object [("group", (GroupSelector.groupId group).toJson),
      ("members", .array [.object [("access_type", tagJson access.name),
        ("user", Directory.userJson member)]]),
      ("return_members", .bool false)]
  | removeFromGroup group member =>
    .object [("group", (GroupSelector.groupId group).toJson),
      ("users", .array [Directory.userJson member]), ("return_members", .bool false)]
  | addRole member role => Directory.rolesBody member [role]
  | clearRoles member => Directory.rolesBody member []
  | suspend member | unsuspend member => Directory.memberBody member

/-- What a host asks for, with nothing wrong with it, when it wants a change. -/
inductive AskedBy : Change → Command → Prop where
  | grantGroup {principal : Resource} {e : Entitlement} {member group : String} {a : GroupAccess}
      (hp : principal.id = ⟨.user, member⟩) (hr : e.resource.id = ⟨.group, group⟩)
      (hs : e.slug = a.name) : AskedBy (addToGroup group member a) (.grant .group principal e)
  | revokeGroup {g : Grant} {member group : String} {a : GroupAccess}
      (hp : g.principal = ⟨.user, member⟩) (hr : g.entitlement.resource.id = ⟨.group, group⟩)
      (hs : g.entitlement.slug = a.name) :
      AskedBy (removeFromGroup group member) (.revoke .group g)
  | grantRole {principal : Resource} {e : Entitlement} {member role : String}
      (hp : principal.id = ⟨.user, member⟩) (hr : e.resource.id = ⟨.role, role⟩)
      (hs : e.slug = "member") : AskedBy (addRole member role) (.grant .role principal e)
  | revokeRole {g : Grant} {member role : String}
      (hp : g.principal = ⟨.user, member⟩) (hr : g.entitlement.resource.id = ⟨.role, role⟩)
      (hs : g.entitlement.slug = "member") : AskedBy (clearRoles member) (.revoke .role g)
  | disable {args : Members} {member : String} (ha : args.get? "user_id" = some (.string member))
      (hm : member ≠ "") : AskedBy (suspend member) (.invoke "disable_user" args)
  | enable {args : Members} {member : String} (ha : args.get? "user_id" = some (.string member))
      (hm : member ≠ "") : AskedBy (unsuspend member) (.invoke "enable_user" args)

/-- What a host is told of a change that is in effect. That it was so before is said of a grant and
of a revocation, and not of an action. -/
def reply (already : Bool) (r : RateLimit) : Change → Reply
  | addToGroup .. | addRole .. =>
    .annotations (.rateLimit r :: if already then [.grantAlreadyExists] else [])
  | removeFromGroup .. | clearRoles _ =>
    .annotations (.rateLimit r :: if already then [.grantAlreadyRevoked] else [])
  | suspend _ | unsuspend _ => .value (.object [("success", .bool true)]) [.rateLimit r]

end Change

/-! ### What a host asks for -/

lemma GroupAccess.ofTag?_name (a : GroupAccess) : ofTag? a.name = some a := by
  cases a <;> rfl

namespace Groups

variable {d : Directory} {member group : String} {a : GroupAccess}

lemma grant_eq {principal : Resource} {e : Entitlement} (hp : principal.id = ⟨.user, member⟩)
    (hr : e.resource.id = ⟨.group, group⟩) (hs : e.slug = a.name) :
    grant d principal e =
      (·.annotations .grantAlreadyExists) <$> d.addToGroup group member a := by
  simp [grant, hp, hr, hs, ResourceId.expectUser, ResourceId.expectKind, accessOf,
    GroupAccess.ofTag?_name]

lemma revoke_eq {g : Grant} (hp : g.principal = ⟨.user, member⟩)
    (hr : g.entitlement.resource.id = ⟨.group, group⟩) (hs : g.entitlement.slug = a.name) :
    revoke d g =
      (·.annotations .grantAlreadyRevoked) <$> d.removeFromGroup group member := by
  simp [revoke, hp, hr, hs, ResourceId.expectUser, ResourceId.expectKind, accessOf,
    GroupAccess.ofTag?_name]

end Groups

namespace Roles

variable {d : Directory} {member role : String}

lemma grant_eq {principal : Resource} {e : Entitlement} (hp : principal.id = ⟨.user, member⟩)
    (hr : e.resource.id = ⟨.role, role⟩) (hs : e.slug = slug) :
    grant d principal e =
      (·.annotations .grantAlreadyExists) <$> d.assignRole member role := by
  simp [grant, hp, hr, hs, ResourceId.expectUser, ResourceId.expectKind, expectSlug]

lemma revoke_eq {g : Grant} (hp : g.principal = ⟨.user, member⟩)
    (hr : g.entitlement.resource.id = ⟨.role, role⟩) (hs : g.entitlement.slug = slug) :
    revoke d g =
      (·.annotations .grantAlreadyRevoked) <$> d.clearRoles member := by
  simp [revoke, hp, hr, hs, ResourceId.expectUser, ResourceId.expectKind, expectSlug]

end Roles

/-- An action on a member that is named brings about its state and logs how that went. -/
lemma Action.perform_apply (k : Connector) (a : Action) {args : Members} {member : String}
    (ha : args.get? "user_id" = some (.string member)) (hm : member ≠ "") (s : Session) :
    (k.perform (.invoke a.name args) s).1 = (a.apply k.directory member s).1.map
        (fun o => .value success [.rateLimit o.rateLimit]) ∧
      (a.apply k.directory member s).2.Alike (k.perform (.invoke a.name args) s).2 := by
  have hx : a.extractMember args s = (.ok member, s) := by
    simp [extractMember, memberOf, ha, hm]
  have hp : k.perform (.invoke a.name args) =
      (fun r => .value r.1 r.2) <$> a.run k.directory args := by cases a <;> rfl
  rw [hp, Step.map_apply, run, Step.bind_of_ok hx]
  rcases h : a.apply k.directory member s with ⟨e | o, u⟩
  · rw [Step.bind_of_error (by rw [Step.rescue_log_apply, h])]
    exact ⟨rfl, .noting_right (.refl _) _⟩
  · rw [Step.bind_of_ok (by rw [Step.rescue_log_apply, h]), Step.bind_of_ok (Step.log_apply ..)]
    exact ⟨rfl, .noting_right (.refl _) _⟩

namespace Change

/-- What a host asks for in good order is the mutation of the change, up to what is logged. -/
lemma perform_askedBy {ch : Change} {cmd : Command} (h : ch.AskedBy cmd) (k : Connector)
    (s : Session) :
    (k.perform cmd s).1 =
        (k.directory.mutate ch.kind ch.op ch.body s).1.map
          (fun o => ch.reply o.isNoop o.rateLimit) ∧
      (k.directory.mutate ch.kind ch.op ch.body s).2.Alike (k.perform cmd s).2 := by
  cases h with
  | @grantGroup principal e member group a hp hr hs =>
    have h : k.perform (.grant .group principal e) =
        .annotations <$> Groups.grant k.directory principal e := rfl
    rw [h, Groups.grant_eq hp hr hs, ← comp_map, Step.map_apply]
    exact ⟨rfl, .refl _⟩
  | @revokeGroup g member group a hp hr hs =>
    have h : k.perform (.revoke .group g) = .annotations <$> Groups.revoke k.directory g := rfl
    rw [h, Groups.revoke_eq hp hr hs, ← comp_map, Step.map_apply]
    exact ⟨rfl, .refl _⟩
  | @grantRole principal e member role hp hr hs =>
    have h : k.perform (.grant .role principal e) =
        .annotations <$> Roles.grant k.directory principal e := rfl
    rw [h, Roles.grant_eq hp hr hs, ← comp_map, Step.map_apply]
    exact ⟨rfl, .refl _⟩
  | @revokeRole g member role hp hr hs =>
    have h : k.perform (.revoke .role g) = .annotations <$> Roles.revoke k.directory g := rfl
    rw [h, Roles.revoke_eq hp hr hs, ← comp_map, Step.map_apply]
    exact ⟨rfl, .refl _⟩
  | disable ha hm => exact Action.perform_apply k .disableUser ha hm s
  | enable ha hm => exact Action.perform_apply k .enableUser ha hm s

end Change

/-! ### What comes of a mutation -/

/-- An answer that says that a change is in effect already: a conflict, or something not found,
whose body is an envelope with one of some tags. -/
def Answer.ReportsDone (tags : List String) : Answer → Prop
  | .failure _ => False
  | .response status _ body _ =>
    (status = 409 ∨ status = 404) ∧
      ∃ e tag, Envelope.parse? body = some e ∧ e.tag = some tag ∧ tag ≠ "" ∧ tag ∈ tags

lemma Envelope.tag?_eq_some {e : Envelope} {tag : String} :
    e.tag? = some tag ↔ e.tag = some tag ∧ tag ≠ "" := by
  simp [tag?, Option.filter_eq_some_iff]

/-- Of the calls that get no success, those are absorbed that report what is done already. -/
lemma AllowList.absorbs_iff (al : AllowList) (kind : MutationKind) {c : Client} {op : Operation}
    {a : Option Answer} {e : Error} (h : c.Rejects op a e) :
    al.absorbs kind (.within op e) = true ↔ ∃ b, a = some b ∧ b.ReportsDone (al.tags kind) := by
  cases h with
  | noAnswer => simp [absorbs, Error.api?, Error.root]
  | transport cause => simp [absorbs, Error.api?, Error.root, Answer.ReportsDone]
  | @status status headers body arrival h =>
    have hbind (tag : String) : (Envelope.parse? body).bind (·.tag?) = some tag ↔
        ∃ e, Envelope.parse? body = some e ∧ e.tag = some tag ∧ tag ≠ "" := by
      simp only [Option.bind_eq_some_iff, Envelope.tag?_eq_some]
    simp only [absorbs, Error.api?, Error.root, ApiError.ofEnvelope, ApiError.isConflictOrNotFound,
      Answer.ReportsDone]
    rcases ht : (Envelope.parse? body).bind (·.tag?) with _ | tag
    · -- the body is no envelope, or one without a tag
      refine ⟨by simp, ?_⟩
      rintro ⟨b, hb, hd⟩
      cases hb
      obtain ⟨-, e, tag, h1, h2, h3, -⟩ := hd
      rw [(hbind tag).mpr ⟨e, h1, h2, h3⟩] at ht
      cases ht
    · obtain ⟨e, h1, h2, h3⟩ := (hbind tag).mp ht
      simp [contains, h1, h2, h3]

namespace Directory

/-- What comes of a mutation when its request gets an answer. -/
def settled (d : Directory) (kind : MutationKind) (op : Operation) (a : Option Answer) :
    Except Error MutationOutcome :=
  match d.client.accept op a with
  | .ok r => .ok (.applied r)
  | .error e => if d.allowed.absorbs kind e then .ok (.absorbed e) else .error e

variable (d : Directory) (kind : MutationKind) (op : Operation)

/-- **A mutation is one request**, and its outcome is a function of the answer. -/
theorem mutate_apply (body : Value) {s s₁ : Session} {t : String}
    (ht : d.client.token s = (.ok t, s₁)) (hl : Http.isHeaderValue (bearer t)) :
    ∃ es, d.mutate kind op body s =
      (d.settled kind op s.transport.next?, s₁.spend (d.client.requestOf op t body) es) := by
  have hs : s₁.transport = s.transport := by simpa [ht] using d.client.token_transport s
  rw [mutate, Step.bind_of_ok (Step.attempt_apply ..), Client.callDiscard_eq,
    Client.roundTrip_apply _ _ _ _ _ ht hl, hs]
  simp only [settled, settle]
  rcases d.client.accept op s.transport.next? with e | r
  · by_cases ha : d.allowed.absorbs kind e = true
    · simp only [ha, if_true]
      rw [Step.bind_of_ok (Step.log_apply ..), Session.noting_spend]
      exact ⟨_, rfl⟩
    · simp only [ha]
      exact ⟨_, rfl⟩
  · exact ⟨_, rfl⟩

variable {d kind op}

lemma settled_of_success {status : ℕ} {headers : List (String × String)} {body : List UInt8}
    {arrival : Arrival} (h : Http.isSuccess status = true) :
    d.settled kind op (some (.response status headers body arrival)) =
      .ok (.applied (.ofResponse status (.ofList headers) (arrival.instant d.client.now))) := by
  simp [settled, Client.accept, Client.receive_of_success _ _ _ _ _ h]

variable (op) in
lemma settled_of_reportsDone {status : ℕ} {headers : List (String × String)} {body : List UInt8}
    {arrival : Arrival}
    (h : Answer.ReportsDone (d.allowed.tags kind) (.response status headers body arrival)) :
    ∃ tag, d.settled kind op (some (.response status headers body arrival)) =
      .ok ⟨.alreadyInEffect,
        .ofResponse status (.ofList headers) (arrival.instant d.client.now), tag⟩ := by
  have hs : Http.isSuccess status = false := by
    rcases h.1 with rfl | rfl <;> rfl
  have hr : d.client.Rejects op (some (.response status headers body arrival)) _ := .status hs
  have ha := (d.allowed.absorbs_iff kind hr).mpr ⟨_, rfl, h⟩
  simp only [settled, Client.accept, Client.receive_of_rejects hr, ha, if_true]
  exact ⟨_, rfl⟩

lemma settled_of_rejects {a : Option Answer} {e : Error} (h : d.client.Rejects op a e)
    (hn : ¬∃ b, a = some b ∧ b.ReportsDone (d.allowed.tags kind)) :
    d.settled kind op a = .error (.within op e) := by
  simp only [settled, Client.accept, Client.receive_of_rejects h]
  exact if_neg ((d.allowed.absorbs_iff kind h).not.mpr hn)

end Directory

namespace Change

variable {ss : List Setting} {c : Config} {k : Connector} {ch : Change} {cmd : Command}
  {s s₁ : Session} {t : String}

/-- What a host is told of a change is a function of the answer to its request. -/
lemma perform_apply (ha : ch.AskedBy cmd) (ht : k.directory.client.token s = (.ok t, s₁))
    (hl : Http.isHeaderValue (bearer t)) :
    (k.perform cmd s).1 = (k.directory.settled ch.kind ch.op s.transport.next?).map
        (fun o => ch.reply o.isNoop o.rateLimit) ∧
      (k.perform cmd s).2.transport =
        s.transport.after [k.directory.client.requestOf ch.op t ch.body] := by
  have hs : s₁.transport = s.transport := by
    simpa [ht] using k.directory.client.token_transport s
  obtain ⟨h1, h2⟩ := perform_askedBy ha k s
  obtain ⟨es, hm⟩ := k.directory.mutate_apply ch.kind ch.op ch.body ht hl
  rw [hm] at h1 h2
  exact ⟨h1, by rw [← h2.transport, Session.spend_transport, hs]⟩

/-- **A change may be repeated.** With a usable access token it sends one request. Where that gets
a success the change is in effect, whatever the body says. Where the answer is a conflict or says
that something is not found, with a tag among those last set for this kind of change, it was in
effect before. Everything else fails with the error of the call. That a change was in effect before
is said in the second case only. -/
theorem perform_settles (hc : Config.ofSettings ss = .ok c) (hk : Connector.MadeFor c k)
    (ha : ch.AskedBy cmd) (ht : k.directory.client.token s = (.ok t, s₁))
    (hl : Http.isHeaderValue (bearer t)) :
    (k.perform cmd s).2.transport =
      s.transport.after [k.directory.client.requestOf ch.op t ch.body] ∧
    (∀ status headers body arrival,
      s.transport.next? = some (.response status headers body arrival) →
      200 ≤ status ∧ status ≤ 299 →
      (k.perform cmd s).1 = .ok (ch.reply false
        (.ofResponse status (.ofList headers) (arrival.instant k.directory.client.now)))) ∧
    (∀ status headers body arrival,
      s.transport.next? = some (.response status headers body arrival) →
      Answer.ReportsDone (Config.currentTags ss ch.kind) (.response status headers body arrival) →
      (k.perform cmd s).1 = .ok (ch.reply true
        (.ofResponse status (.ofList headers) (arrival.instant k.directory.client.now)))) ∧
    ((∃ status headers body arrival,
        s.transport.next? = some (.response status headers body arrival) ∧
        200 ≤ status ∧ status ≤ 299) ∨
      (∃ a, s.transport.next? = some a ∧ a.ReportsDone (Config.currentTags ss ch.kind)) ∨
      ∃ e, k.directory.client.Rejects ch.op s.transport.next? e ∧
        (k.perform cmd s).1 = .error (.within ch.op e)) ∧
    (∀ r, (k.perform cmd s).1 = .ok r →
      .grantAlreadyExists ∈ r.notes ∨ .grantAlreadyRevoked ∈ r.notes →
      ∃ a, s.transport.next? = some a ∧ a.ReportsDone (Config.currentTags ss ch.kind)) := by
  obtain ⟨hres, htr⟩ := perform_apply ha ht hl
  have htags : k.directory.allowed.tags ch.kind = Config.currentTags ss ch.kind := by
    obtain ⟨client, rfl⟩ := hk.exists_client
    exact Config.allowed_ofSettings hc ch.kind
  rw [← htags]
  refine ⟨htr, ?applied, ?already, ?other, ?noted⟩
  case applied =>
    intro status headers body arrival hn h
    rw [hres, hn, Directory.settled_of_success (by simp [Http.isSuccess, h])]
    rfl
  case already =>
    intro status headers body arrival hn h
    obtain ⟨tag, hd⟩ := Directory.settled_of_reportsDone ch.op h
    rw [hres, hn, hd]
    rfl
  case other =>
    -- an answer that is no success is absorbed or passed on, and the tags say which
    rcases k.directory.client.success_or_rejects ch.op s.transport.next? with
      ⟨status, headers, body, arrival, hn, hs⟩ | ⟨e, he⟩
    · exact .inl ⟨status, headers, body, arrival, hn, by simpa [Http.isSuccess] using hs⟩
    by_cases hd : ∃ a, s.transport.next? = some a ∧
        a.ReportsDone (k.directory.allowed.tags ch.kind)
    · exact .inr (.inl hd)
    · exact .inr (.inr ⟨e, he, by rw [hres, Directory.settled_of_rejects he hd]; rfl⟩)
  case noted =>
    intro r hr hnote
    by_contra hd
    rcases k.directory.client.success_or_rejects ch.op s.transport.next? with
      ⟨status, headers, body, arrival, hn, hs⟩ | ⟨e, he⟩
    · rw [hres, hn, Directory.settled_of_success hs] at hr
      cases hr
      cases ch <;>
        simp [reply, Reply.notes, MutationOutcome.isNoop, MutationOutcome.applied] at hnote
    · rw [hres, Directory.settled_of_rejects he hd] at hr
      cases hr

end Change

/-! ### A sample -/

namespace Sample

/-- Settings of which the second takes the place of the first. -/
def tagSettings : List Setting :=
  [.allowed .addToGroup ["duplicate_user"], .allowed .addToGroup ["gone"],
    .allowed .suspend ["duplicate_user"]]

/-- Someone who can be put into a group. -/
def principal : Resource := ⟨⟨.user, "m:1"⟩, "", none, [], none⟩

/-- What can be held of a group. -/
def ownership : Entitlement :=
  Groups.entitlement ⟨⟨.group, "g:1"⟩, "Team", none, [], none⟩ .owner

/-- The body that says that something is gone. -/
def goneBody : List UInt8 := Utf8.ofString (errorBody "gone" none).toText

lemma reportsDone_gone :
    Answer.ReportsDone (Config.currentTags tagSettings .addToGroup)
      (.response 404 [] goneBody) := by
  have hp : Envelope.parse? goneBody = some ⟨"", some "gone"⟩ := by decide +kernel
  exact ⟨.inr rfl, _, "gone", hp, rfl, by decide, by decide⟩

end Sample

open Sample in
theorem Change.perform_settles_gone :
    (∃ c, Config.ofSettings tagSettings = .ok c ∧ Connector.MadeFor c (.ofClient client c) ∧
      ((Connector.ofClient client c).perform (.grant .group principal ownership)
          (.start ⟨[.response 404 [] goneBody], none, []⟩)).1 =
        .ok (.annotations [.rateLimit .unreported, .grantAlreadyExists])) ∧
      (Change.addToGroup "g:1" "m:1" .owner).AskedBy (.grant .group principal ownership) ∧
      Http.isHeaderValue (bearer "sl.token") := by
  have ha : (Change.addToGroup "g:1" "m:1" .owner).AskedBy (.grant .group principal ownership) :=
    .grantGroup rfl rfl rfl
  obtain ⟨c, hc⟩ : ∃ c, Config.ofSettings tagSettings = .ok c := ⟨_, rfl⟩
  have h := perform_settles hc (.ofClient client) ha
    (token_client (.start ⟨[.response 404 [] goneBody], none, []⟩)) isHeaderValue_bearer
  exact ⟨⟨c, hc, .ofClient client, h.2.2.1 404 [] _ _ rfl reportsDone_gone⟩, ha,
    isHeaderValue_bearer⟩

end TeamSync
