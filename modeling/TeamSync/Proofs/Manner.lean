import TeamSync.Proofs.Carry
import TeamSync.Proofs.Cursor
import TeamSync.Proofs.Identifiers

/-!
The three ways in which a command is carried out: it does nothing, it makes one visit, or it goes
through all members. Which of them it is depends on the command alone. What it comes to carries the
rate limit of the last answer.
-/

namespace TeamSync

open Json

/-! ### Bodies -/

/-- A value whose text is parsed as an object. -/
def Json.Value.Readable (v : Value) : Prop :=
  ∃ ms, parse (Utf8.ofString v.toText) = .ok (.object ms)

lemma Change.readable_body (ch : Change) : ch.body.Readable := by
  have h := ch.parse_body
  cases ch <;> exact ⟨_, h⟩

lemma Feed.readable_body (d : Directory) (f : Feed) (pt : PageToken) :
    (f.catalog.body d pt).Readable := by
  rcases hs : pt.isStart with _ | _
  · rw [Catalog.body, hs]
    exact ⟨_, Directory.parse_cursorBody pt.text⟩
  · have h := f.parse_filters d
    rw [Catalog.body, hs]
    cases f <;> exact ⟨_, h⟩

lemma Directory.parse_inviteBody (email : String) :
    parse (Utf8.ofString (inviteBody email).toText) =
      .ok (.object [("new_members", .array [.object [("member_email", .string email)]])]) :=
  parse_toText rfl (by simp [inviteBody, Value.depth, membersDepth, elementsDepth, depthLimit])

lemma Directory.readable_inviteBody (email : String) : (inviteBody email).Readable :=
  ⟨_, parse_inviteBody email⟩

/-! ### Kinds of commands -/

/-- A reply has one rate limit among its notes, and it is the first of them. -/
def Reply.Reports (reply : Reply) (l : RateLimit) : Prop :=
  ∃ rest, reply.notes = .rateLimit l :: rest ∧ ∀ l', .rateLimit l' ∉ rest

namespace Command

/-- The commands that need an answer of the service if nothing is wrong with them. -/
def Contacts : Command → Prop
  | .list .. | .invoke .. => True
  | .grants kind .. | .grant kind .. | .revoke kind _ => kind ≠ .user
  | .createAccount kind _ | .deleteAccount kind _ => kind = .user
  | .entitlements .. | .validate => False

/-- The commands that go through all members, to find the roles that they hold. -/
def ListsRoles : Command → Prop
  | .list kind .. | .grants kind .. => kind = .role
  | _ => False

/-- The commands that never come to the service. -/
def Idle (cmd : Command) : Prop := cmd.Malformed ∨ ¬cmd.Contacts

lemma not_idle_iff {cmd : Command} : ¬cmd.Idle ↔ ¬cmd.Malformed ∧ cmd.Contacts := by
  simp [Idle]

end Command

/-! ### Steps that check their arguments -/

/-- A step that is one visit if a condition holds, and otherwise says what is wrong with an
argument. -/
inductive Client.VisitsIf {α : Type} (c : Client) (ok : Prop) (P : α → RateLimit → Prop)
    (x : Step α) : Prop where
  | refuses (h : ¬ok) (cause : ArgumentError) (es : List Event)
      (hx : x = Step.blind (.error (.argument cause)) es)
  | visits (h : ok) (op : Operation) {body : Value} (hb : body.Readable)
      (hx : c.Visits op body P x)

namespace Client.VisitsIf

variable {α β : Type} {c : Client} {p q : Prop} {P : α → RateLimit → Prop}
  {Q : β → RateLimit → Prop}

lemma congr {x : Step α} (h : c.VisitsIf p P x) (hpq : p ↔ q) : c.VisitsIf q P x :=
  propext hpq ▸ h

lemma map {x : Step α} (h : c.VisitsIf p P x) {f : α → β} (hf : ∀ a l, P a l → Q (f a) l) :
    c.VisitsIf p Q (f <$> x) := by
  cases h with
  | refuses h cause es hx => exact .refuses h cause es (by rw [hx, Step.map_blind]; rfl)
  | visits h op hb hx => exact .visits h op hb (hx.map hf)

/-- A check comes before the rest, or it is all there is. -/
lemma check {r : Except Error α} (h : Checks r p) {f : α → Step β}
    (hf : ∀ a, r = .ok a → c.VisitsIf q Q (f a)) :
    c.VisitsIf (p ∧ q) Q (Step.ofExcept r >>= f) := by
  rcases h with ⟨hp, a, rfl⟩ | ⟨hp, cause, rfl⟩
  · rw [Step.ofExcept_ok, pure_bind]
    exact (hf a rfl).congr (by simp [hp])
  · refine .refuses (fun h => hp h.1) cause [] ?_
    rw [Step.ofExcept_eq_blind, Step.blind_error_bind]

/-- What is done for a user with something to hold is done if each of them is what it should be. -/
lemma holding (user : ResourceId) (e : Entitlement) {kind : ResourceKind} {r : Except Error α}
    (hr : Checks r (e.slug ∈ kind.slugs)) {f : String → String → α → Step β}
    (hf : ∀ member id a, c.VisitsIf True Q (f member id a)) :
    c.VisitsIf (user.kind = .user ∧ e.resource.id.kind = kind ∧ e.slug ∈ kind.slugs) Q (do
      let member ← Step.ofExcept user.expectUser
      let id ← Step.ofExcept (e.resource.id.expectKind kind)
      let a ← Step.ofExcept r
      f member id a) :=
  (check user.checks_expectUser fun member _ =>
    check (e.resource.id.checks_expectKind kind) fun id _ =>
      check hr fun a _ => hf member id a).congr (by simp)

end Client.VisitsIf

/-! ### Changes -/

/-- The annotations of a mutation report its rate limit. -/
lemma MutationOutcome.reports_annotations {o : MutationOutcome} {l : RateLimit}
    (h : o.rateLimit = l) {noop : Annotation} (hn : ∀ l', noop ≠ .rateLimit l') :
    (Reply.annotations (o.annotations noop)).Reports l := by
  refine ⟨if o.isNoop then [noop] else [], by simp [Reply.notes, annotations, h], fun l' hl => ?_⟩
  split_ifs at hl
  · exact hn l' (List.mem_singleton.mp hl).symm
  · cases hl

/-- A change that is reported in annotations. -/
lemma Directory.visits_change (d : Directory) (ch : Change) {noop : Annotation}
    (hn : ∀ l', noop ≠ .rateLimit l') :
    d.client.VisitsIf True (fun as l => (Reply.annotations as).Reports l) (do
      let outcome ← d.mutate ch.kind ch.op ch.body
      pure (outcome.annotations noop)) :=
  .visits trivial ch.op ch.readable_body <| (d.visits_mutate _ _ _).map
    fun _ _ h => MutationOutcome.reports_annotations h hn

namespace Groups

variable (d : Directory)

lemma visits_grant (principal : Resource) (e : Entitlement) :
    d.client.VisitsIf (principal.id.kind = .user ∧ e.resource.id.kind = .group ∧
      e.slug ∈ ResourceKind.slugs .group) (fun as l => (Reply.annotations as).Reports l)
      (grant d principal e) :=
  .holding principal.id e (checks_accessOf e.slug) fun member group access =>
    d.visits_change (.addToGroup group member access) (by simp)

lemma visits_revoke (g : Grant) :
    d.client.VisitsIf (g.principal.kind = .user ∧ g.entitlement.resource.id.kind = .group ∧
      g.entitlement.slug ∈ ResourceKind.slugs .group)
      (fun as l => (Reply.annotations as).Reports l) (revoke d g) :=
  .holding g.principal g.entitlement (checks_accessOf g.entitlement.slug) fun member group _ =>
    d.visits_change (.removeFromGroup group member) (by simp)

end Groups

namespace Roles

variable (d : Directory)

lemma visits_grant (principal : Resource) (e : Entitlement) :
    d.client.VisitsIf (principal.id.kind = .user ∧ e.resource.id.kind = .role ∧
      e.slug ∈ ResourceKind.slugs .role) (fun as l => (Reply.annotations as).Reports l)
      (grant d principal e) :=
  .holding principal.id e (checks_expectSlug e.slug) fun member role _ =>
    d.visits_change (.addRole member role) (by simp)

lemma visits_revoke (g : Grant) :
    d.client.VisitsIf (g.principal.kind = .user ∧ g.entitlement.resource.id.kind = .role ∧
      g.entitlement.slug ∈ ResourceKind.slugs .role)
      (fun as l => (Reply.annotations as).Reports l) (revoke d g) :=
  .holding g.principal g.entitlement (checks_expectSlug g.entitlement.slug) fun member _ _ =>
    d.visits_change (.clearRoles member) (by simp)

end Roles

/-! ### Accounts -/

lemma InviteAnswer.newMember_cases (a : InviteAnswer) :
    (∃ p, a.newMember = .ok p) ∨ ∃ e, a.newMember = .error e ∧ e.rateLimit? = none := by
  unfold newMember
  split
  · exact .inr ⟨_, rfl, rfl⟩
  · split_ifs
    · split
      · exact .inl ⟨_, rfl⟩
      · exact .inr ⟨_, rfl, rfl⟩
    · exact .inr ⟨_, rfl, rfl⟩

namespace Users

variable (d : Directory)

/-- What becomes of the answer to an invitation, and what is logged. -/
def welcoming (a : Answered InviteAnswer) : Except Error CreatedAccount × List Event :=
  match a.value.newMember with
  | .ok p => (.ok ⟨resource p none, [.rateLimit a.rateLimit]⟩,
      [⟨.debug, "User created", [("team_member_id", .text p.memberId)], []⟩])
  | .error e => (.error e, [])

lemma welcome_eq_blind (a : Answered InviteAnswer) :
    (do
      let p ← Step.ofExcept a.value.newMember
      Step.log .debug "User created" [("team_member_id", .text p.memberId)]
      pure ⟨resource p none, [.rateLimit a.rateLimit]⟩ : Step CreatedAccount) =
      Step.blind (welcoming a).1 (welcoming a).2 := by
  rcases hn : a.value.newMember with e | p
  · simp only [welcoming, hn, Step.ofExcept_eq_blind, Step.blind_error_bind]
  · simp only [welcoming, hn, Step.ofExcept_ok, pure_bind]
    rfl

lemma visits_create (attributes : Members) :
    d.client.VisitsIf (∃ s, attributes.get? "email" = some (.string s) ∧ Text.trim s ≠ "")
      (fun a l => (Reply.account a).Reports l) (create d attributes) := by
  rw [← email?_isSome]
  rcases he : email? attributes with _ | email
  · refine .refuses (by simp) (.missingField "email") [] ?_
    simp only [create, he, Step.fail_eq_blind]
  refine .visits rfl .addMember (Directory.readable_inviteBody email) ?_
  simp only [create, he]
  refine ((d.visits_invite email).rescue_log ..).bind_blind (g := welcoming) welcome_eq_blind
    fun a l hl => ?_
  rcases a.value.newMember_cases with ⟨p, hp⟩ | ⟨e, hn, hnone⟩
  · simp only [welcoming, hp]
    exact ⟨l, rfl, [], by simp [Reply.notes, hl], by simp⟩
  · simp only [welcoming, hn]
    exact carries_error hnone

lemma visits_delete (id : ResourceId) :
    d.client.VisitsIf (id.kind = .user) (fun as l => (Reply.annotations as).Reports l)
      (delete d id) := by
  refine (Client.VisitsIf.check (id.checks_expectKind .user) (q := True) fun member _ =>
    .visits trivial .removeMember (Change.readable_body (.suspend member)) ?_).congr (by simp)
  exact ((d.visits_remove member).rescue_log ..).map fun a l hl =>
    ⟨[], by simp [Reply.notes, hl], by simp⟩

end Users

/-! ### Actions -/

namespace Action

variable (d : Directory)

lemma visits_apply (a : Action) (member : String) :
    ∃ ch : Change,
      d.client.Visits ch.op ch.body (fun o l => o.rateLimit = l) (a.apply d member) := by
  cases a
  · exact ⟨.suspend member, d.visits_mutate ..⟩
  · exact ⟨.unsuspend member, d.visits_mutate ..⟩

lemma visits_run (a : Action) (args : Members) :
    d.client.VisitsIf (∃ m, args.get? "user_id" = some (.string m) ∧ m ≠ "")
      (fun r l => (Reply.value r.1 r.2).Reports l) (run d a args) := by
  rcases memberOf_cases args with ⟨m, hm, hok⟩ | ⟨⟨problem, hp⟩, hno⟩
  · have hx : a.extractMember args = pure m := by simp only [extractMember, hm]
    obtain ⟨ch, hch⟩ := visits_apply d a m
    refine .visits ⟨m, hok⟩ ch.op ch.readable_body ?_
    rw [run, hx, pure_bind]
    refine (hch.rescue_log ..).bind_blind (g := fun outcome =>
      (.ok (success, [.rateLimit outcome.rateLimit]), [⟨.info,
        if outcome.isNoop then "User already in requested state" else "Action applied",
        [("team_member_id", .text m)], []⟩])) (fun outcome => rfl) fun outcome l hl => ?_
    exact ⟨l, rfl, [], by simp [Reply.notes, hl], by simp⟩
  · refine .refuses hno (.invalid problem) [⟨.warn, problem, [("action", .text a.name)], []⟩] ?_
    have hx : a.extractMember args = Step.blind (.error (.argument (.invalid problem)))
        [⟨.warn, problem, [("action", .text a.name)], []⟩] := by
      simp only [extractMember, hp]
      rfl
    rw [run, hx, Step.blind_error_bind]

end Action

/-! ### Pages and roles -/

namespace Feed

variable (k : Connector) (f : Feed)

lemma page_eq_finish (pt : PageToken) :
    f.page k pt = ((f.catalog.pages k.directory).fetch pt).finish
      (Step.passing fun p => (.ok (.ofPage p f.convert), f.told p.items)) := by
  funext s
  rcases h : (f.catalog.pages k.directory).fetch pt s with ⟨e | p, s₁⟩
  · rw [page_of_error h, Step.finish, h]
    simp [Step.passing]
  · rw [page_of_ok h, Step.finish, h]
    rfl

lemma reports_reply {p : Page f.catalog.Item} {l : RateLimit} (h : p.rateLimit = l) :
    (f.reply (.ofPage p f.convert)).Reports l := by
  refine ⟨[], ?_, by simp⟩
  cases f <;> simp [reply, Reply.notes, SyncPage.ofPage, ← h]

/-- A page that a host asks for is one visit. -/
lemma visits_perform (pt : PageToken) :
    k.directory.client.Visits (f.catalog.op pt) (f.catalog.body k.directory pt) Reply.Reports
      (k.perform (f.command pt)) := by
  rw [perform_eq, page_eq_finish]
  refine Client.Visits.map (P := fun page l => (f.reply page).Reports l) ?_ fun _ _ h => h
  exact (f.catalog.visits_fetch k.directory pt).finish (hands_passing fun p l hl =>
    ⟨l, rfl, f.reports_reply hl⟩)

end Feed

namespace Connector

variable (k : Connector)

/-- How a command is carried out. -/
inductive Manner (cmd : Command) : Prop where
  | idle (hi : cmd.Idle) (r : Except Error Reply) (es : List Event)
      (h : k.perform cmd = Step.blind r es)
      (hr : cmd.Contacts → ∃ cause, r = .error (.argument cause))
  | once (hi : ¬cmd.Idle) (hl : ¬cmd.ListsRoles) (op : Operation) {body : Value}
      (hb : body.Readable) (h : k.directory.client.Visits op body Reply.Reports (k.perform cmd))
  | through (hi : ¬cmd.Idle) (hl : cmd.ListsRoles)
      {f : Drained Member → Except Error Reply × List Event}
      (h : k.perform cmd = k.directory.members.drain.finish (Step.passing f))
      (hf : ∀ all, ∃ reply, (f all).1 = .ok reply ∧ reply.Reports all.rateLimit)

variable {k}

lemma Manner.of_visitsIf {cmd : Command} {ok : Prop}
    (h : k.directory.client.VisitsIf ok Reply.Reports (k.perform cmd)) (hok : ok ↔ ¬cmd.Malformed)
    (hc : cmd.Contacts) (hl : ¬cmd.ListsRoles) : k.Manner cmd := by
  cases h with
  | refuses h cause es hx =>
    have hm : cmd.Malformed := not_not.mp (hok.not.mp h)
    exact .idle (.inl hm) _ es hx fun _ => ⟨cause, rfl⟩
  | visits h op hb hx => exact .once (Command.not_idle_iff.mpr ⟨hok.mp h, hc⟩) hl op hb hx

lemma Manner.of_feed (f : Feed) (pt : PageToken) : k.Manner (f.command pt) := by
  refine .once (Command.not_idle_iff.mpr ?_) ?_ (f.catalog.op pt)
    (f.readable_body k.directory pt) (f.visits_perform k pt)
  · cases f with
    | grants group h => simp [Feed.command, Command.Malformed, Command.Contacts, h]
    | _ => simp [Feed.command, Command.Malformed, Command.Contacts]
  · cases f <;> simp [Feed.command, Command.ListsRoles]

/-- Without an answer to get, a command just has its result. -/
lemma Manner.of_silent {cmd : Command} (hc : ¬cmd.Contacts) {r : Except Error Reply}
    (h : k.perform cmd = Step.blind r []) : k.Manner cmd :=
  .idle (.inr hc) r [] h fun hn => absurd hn hc

lemma Manner.list (kind : ResourceKind) (parent : Option ResourceId) (pt : PageToken) :
    k.Manner (.list kind parent pt) := by
  cases kind with
  | user => exact .of_feed (.users parent) pt
  | group => exact .of_feed (.groups parent) pt
  | role =>
    have h : k.perform (.list .role parent pt) =
        .resources <$> Roles.list k.directory parent pt := rfl
    refine .through (by simp [Command.Idle, Command.Malformed, Command.Contacts]) rfl
      (f := fun all =>
        let roles := (Roles.heldRoles all.items).map fun r => Roles.resource r parent
        (.ok (.resources (.last roles [.rateLimit all.rateLimit])),
          [⟨.debug, "Roles collected",
            [("pages", .count all.pages), ("roles", .count roles.length)], []⟩])) ?_
      fun all => ⟨_, rfl, [], rfl, by simp⟩
    rw [h, Roles.list, map_bind]
    exact Step.bind_eq_finish _ fun all => rfl

lemma Manner.grants (kind : ResourceKind) (r : Resource) (pt : PageToken) :
    k.Manner (.grants kind r pt) := by
  cases kind with
  | user => exact .of_silent (by simp [Command.Contacts]) (Step.pure_eq_blind _)
  | group =>
    rcases r.id.checks_expectKind .group with ⟨hr, -⟩ | ⟨hr, cause, hc⟩
    · exact .of_feed (.grants r hr) pt
    · refine .idle (.inl ⟨by simp, hr⟩) (.error (.argument cause)) [] ?_ fun _ => ⟨cause, rfl⟩
      have h : k.perform (.grants .group r pt) = .grants <$> Groups.grants k.directory r pt := rfl
      rw [h, Groups.grants, hc, Step.ofExcept_eq_blind, Step.blind_error_bind, Step.map_blind]
      rfl
  | role =>
    have h : k.perform (.grants .role r pt) = .grants <$> Roles.grants k.directory r pt := rfl
    rcases r.id.checks_expectKind .role with ⟨hr, a, ha⟩ | ⟨hr, cause, hc⟩
    · refine .through (by simp [Command.Idle, Command.Malformed, Command.Contacts, hr]) rfl
        (f := fun all =>
          (.ok (.grants (.last (Roles.grantsOf r all.items) [.rateLimit all.rateLimit])), [])) ?_
        fun all => ⟨_, rfl, [], rfl, by simp⟩
      rw [h, Roles.grants, ha, Step.ofExcept_ok, pure_bind, map_bind]
      exact Step.bind_eq_finish _ fun all => by rw [map_pure]; exact Step.pure_eq_blind _
    · refine .idle (.inl ⟨by simp, hr⟩) (.error (.argument cause)) [] ?_ fun _ => ⟨cause, rfl⟩
      rw [h, Roles.grants, hc, Step.ofExcept_eq_blind, Step.blind_error_bind, Step.map_blind]
      rfl

lemma Manner.invoke (action : String) (args : Members) : k.Manner (.invoke action args) := by
  have h : k.perform (.invoke action args) =
      (fun r => .value r.1 r.2) <$> k.invoke action args := rfl
  rcases ha : Action.ofName? action with _ | a
  · have hno : action ∉ Action.all.map Action.name := by
      simpa [Action.ofName?, List.mem_map] using ha
    refine .idle (.inl (.inl hno))
      (.error (.argument (.invalid ("unknown action '" ++ action ++ "'")))) [] ?_ fun _ => ⟨_, rfl⟩
    have hinv : k.invoke action args =
        Step.fail (.argument (.invalid ("unknown action '" ++ action ++ "'"))) := by
      simp only [Connector.invoke, ha]
    rw [h, hinv, Step.fail_eq_blind, Step.map_blind]
    rfl
  · have hmem : action ∈ Action.all.map Action.name := by
      have hn : a.name = action := by simpa using List.find?_some ha
      exact List.mem_map.mpr ⟨a, List.mem_of_find?_eq_some ha, hn⟩
    have hinv : k.invoke action args = a.run k.directory args := by
      simp only [Connector.invoke, ha]
    have hrun := (Action.visits_run k.directory a args).map
      (f := fun r => Reply.value r.1 r.2) (Q := Reply.Reports) fun _ _ hl => hl
    rw [← hinv, ← h] at hrun
    exact .of_visitsIf hrun (by simp [Command.Malformed, hmem]) trivial id

/-- **A command is idle, makes one visit or goes through all members**, and what it comes to
carries the rate limit of the last answer. -/
theorem manner (k : Connector) (cmd : Command) : k.Manner cmd := by
  cases cmd with
  | list kind parent pt => exact .list kind parent pt
  | grants kind r pt => exact .grants kind r pt
  | invoke action args => exact .invoke action args
  | entitlements kind r =>
    refine .of_silent id (r := ((k.syncer kind).entitlements r).map .entitlements) ?_
    have h : k.perform (.entitlements kind r) =
        .entitlements <$> Step.ofExcept ((k.syncer kind).entitlements r) := rfl
    rw [h, Step.ofExcept_eq_blind, Step.map_blind]
  | grant kind principal e =>
    cases kind with
    | user => exact .of_silent (by simp [Command.Contacts]) (Step.pure_eq_blind _)
    | group =>
      exact .of_visitsIf ((Groups.visits_grant k.directory principal e).map fun _ _ h => h)
        (by simp [Command.Malformed]) (by simp [Command.Contacts]) id
    | role =>
      exact .of_visitsIf ((Roles.visits_grant k.directory principal e).map fun _ _ h => h)
        (by simp [Command.Malformed]) (by simp [Command.Contacts]) id
  | revoke kind g =>
    cases kind with
    | user => exact .of_silent (by simp [Command.Contacts]) (Step.pure_eq_blind _)
    | group =>
      exact .of_visitsIf ((Groups.visits_revoke k.directory g).map fun _ _ h => h)
        (by simp [Command.Malformed]) (by simp [Command.Contacts]) id
    | role =>
      exact .of_visitsIf ((Roles.visits_revoke k.directory g).map fun _ _ h => h)
        (by simp [Command.Malformed]) (by simp [Command.Contacts]) id
  | createAccount kind attributes =>
    cases kind with
    | user =>
      exact .of_visitsIf ((Users.visits_create k.directory attributes).map fun _ _ h => h)
        (by simp [Command.Malformed]) rfl id
    | group => exact .of_silent (by simp [Command.Contacts]) (Step.pure_eq_blind _)
    | role => exact .of_silent (by simp [Command.Contacts]) (Step.pure_eq_blind _)
  | deleteAccount kind id =>
    cases kind with
    | user =>
      exact .of_visitsIf ((Users.visits_delete k.directory id).map fun _ _ h => h)
        (by simp [Command.Malformed]) rfl (fun h => h)
    | group => exact .of_silent (by simp [Command.Contacts]) (Step.pure_eq_blind _)
    | role => exact .of_silent (by simp [Command.Contacts]) (Step.pure_eq_blind _)
  | validate => exact .of_silent id (Step.pure_eq_blind _)

end Connector

end TeamSync
