import Mathlib.Data.List.TakeWhile
import TeamSync.Command
import TeamSync.Proofs.Feed
import TeamSync.Proofs.Keeps

/-!
What is wrong with an argument is found before anything is done about it. A command with malformed
arguments asks for no token and sends nothing, and no other command fails for its arguments.
-/

namespace TeamSync

/-! ### Malformed arguments -/

/-- What is wrong with the arguments of a command, if anything is. -/
def Command.Malformed : Command → Prop
  | .list .. | .validate => False
  | .entitlements kind r | .grants kind r _ => kind ≠ .user ∧ r.id.kind ≠ kind
  | .grant kind principal e =>
    kind ≠ .user ∧
      (principal.id.kind ≠ .user ∨ e.resource.id.kind ≠ kind ∨ e.slug ∉ kind.slugs)
  | .revoke kind g =>
    kind ≠ .user ∧ (g.principal.kind ≠ .user ∨ g.entitlement.resource.id.kind ≠ kind ∨
      g.entitlement.slug ∉ kind.slugs)
  | .createAccount kind attributes =>
    kind = .user ∧ ¬∃ s, attributes.get? "email" = some (.string s) ∧ Text.trim s ≠ ""
  | .deleteAccount kind id => kind = .user ∧ id.kind ≠ .user
  | .invoke action args =>
    action ∉ Action.all.map Action.name ∨
      ¬∃ member, args.get? "user_id" = some (.string member) ∧ member ≠ ""

/-! ### Checks and what they guard -/

/-- A check: it yields something if a condition holds, and else says what is wrong. -/
def Checks {α : Type} (r : Except Error α) (ok : Prop) : Prop :=
  (ok ∧ ∃ a, r = .ok a) ∨ (¬ok ∧ ∃ cause, r = .error (.argument cause))

/-- A step of a client that fails at once unless its arguments are well formed. -/
structure Client.Guarded {α : Type} (c : Client) (ok : Prop) (x : Step α) : Prop where
  refuses : ¬ok → ∀ s, ∃ e es, x s = (.error e, s.noting es) ∧ e.IsArgument
  keeps : ok → ∀ {I F}, c.Keeping I F → Step.Keeps I F x

namespace Client.Guarded

variable {α β : Type} {c : Client} {p q : Prop}

lemma of_keeps {x : Step α} (h : ∀ {I F}, c.Keeping I F → Step.Keeps I F x) : c.Guarded True x :=
  ⟨fun hn => absurd trivial hn, fun _ => h⟩

lemma congr {x : Step α} (h : c.Guarded p x) (hpq : p ↔ q) : c.Guarded q x :=
  propext hpq ▸ h

lemma ofExcept {r : Except Error α} (h : Checks r p) : c.Guarded p (Step.ofExcept r) := by
  rcases h with ⟨hp, a, rfl⟩ | ⟨hp, cause, rfl⟩
  · exact ⟨fun hn => absurd hp hn, fun _ _ _ _ => Step.keeps_pure a⟩
  · exact ⟨fun _ s => ⟨.argument cause, [], by simp, cause, rfl⟩, fun h => absurd h hp⟩

/-- After a check that succeeds the rest is guarded by what is left to check. -/
lemma check {r : Except Error α} (h : Checks r p) {f : α → Step β}
    (hf : ∀ a, r = .ok a → c.Guarded q (f a)) : c.Guarded (p ∧ q) (Step.ofExcept r >>= f) := by
  rcases h with ⟨hp, a, rfl⟩ | ⟨hp, cause, rfl⟩
  · exact (hf a rfl).congr (by simp [hp])
  · refine ⟨fun _ s => ⟨.argument cause, [], ?_, cause, rfl⟩, fun h => absurd h.1 hp⟩
    rw [Step.bind_of_error (Step.ofExcept_apply ..), Session.noting_nil]

/-- The result of a guarded step may be put into another form. -/
lemma map {x : Step α} (h : c.Guarded p x) (f : α → β) : c.Guarded p (f <$> x) where
  refuses hn s := by
    obtain ⟨e, es, hx, he⟩ := h.refuses hn s
    exact ⟨e, es, by rw [Step.map_apply, hx]; rfl, he⟩
  keeps hp _ _ hk := (h.keeps hp hk).map f

end Client.Guarded

lemma ResourceId.checks_expectKind (r : ResourceId) (kind : ResourceKind) :
    Checks (r.expectKind kind) (r.kind = kind) := by
  by_cases h : r.kind = kind
  · exact .inl ⟨h, r.id, by simp [expectKind, h]⟩
  · exact .inr ⟨h, _, if_neg h⟩

lemma ResourceId.checks_expectUser (r : ResourceId) : Checks r.expectUser (r.kind = .user) := by
  by_cases h : r.kind = .user
  · exact .inl ⟨h, r.id, by simp [expectUser, h]⟩
  · exact .inr ⟨h, _, if_neg h⟩

/-! ### Changes -/

/-- What is done for a user with something to hold is guarded by what each of them is. -/
lemma Client.Guarded.holding {c : Client} {α β : Type} (user : ResourceId) (e : Entitlement)
    {kind : ResourceKind} {r : Except Error α} (hr : Checks r (e.slug ∈ kind.slugs))
    {f : String → String → α → Step β} (hf : ∀ member id a, c.Guarded True (f member id a)) :
    c.Guarded (user.kind = .user ∧ e.resource.id.kind = kind ∧ e.slug ∈ kind.slugs) (do
      let member ← Step.ofExcept user.expectUser
      let id ← Step.ofExcept (e.resource.id.expectKind kind)
      let a ← Step.ofExcept r
      f member id a) :=
  (check user.checks_expectUser fun member _ =>
    check (e.resource.id.checks_expectKind kind) fun id _ =>
      check hr fun a _ => hf member id a).congr (by simp)

/-- A change that is reported in annotations has nothing more to check. -/
lemma Directory.guarded_mutate (d : Directory) (kind : MutationKind) {op : Operation}
    (hop : op.isContinuing = false) (body : Json.Value) (note : Annotation) :
    d.client.Guarded True (do
      let outcome ← d.mutate kind op body
      pure (outcome.annotations note)) :=
  .of_keeps fun h => (keeps_mutate h kind (Operation.carries_of_not hop body)).bind
    fun _ => Step.keeps_pure _

/-! ### Groups -/

/-- The known tags are what can be held of a group. -/
lemma GroupAccess.ofTag?_isSome {tag : String} :
    (ofTag? tag).isSome = true ↔ tag ∈ ResourceKind.slugs .group := by
  simp only [ofTag?, ResourceKind.slugs]
  split_ifs with hm ho <;> simp [*]

namespace Groups

variable (d : Directory)

lemma checks_accessOf (slug : String) :
    Checks (accessOf slug) (slug ∈ ResourceKind.slugs .group) := by
  rcases ht : GroupAccess.ofTag? slug with _ | a
  · refine .inr ⟨?_, .unknownEntitlement slug ResourceKind.group.name, by simp only [accessOf, ht]⟩
    rw [← GroupAccess.ofTag?_isSome, ht]
    simp
  · refine .inl ⟨?_, a, by simp only [accessOf, ht]⟩
    rw [← GroupAccess.ofTag?_isSome, ht]
    rfl

lemma checks_entitlements (r : Resource) : Checks (entitlements r) (r.id.kind = .group) := by
  rcases r.id.checks_expectKind .group with ⟨h, a, ha⟩ | ⟨h, cause, hc⟩
  · exact .inl ⟨h, _, by simp only [entitlements, ha]; rfl⟩
  · exact .inr ⟨h, cause, by simp only [entitlements, hc]; rfl⟩

lemma guarded_grant (principal : Resource) (e : Entitlement) :
    d.client.Guarded (principal.id.kind = .user ∧ e.resource.id.kind = .group ∧
      e.slug ∈ ResourceKind.slugs .group) (grant d principal e) :=
  .holding principal.id e (checks_accessOf e.slug) fun _ _ _ => d.guarded_mutate _ rfl _ _

lemma guarded_revoke (g : Grant) :
    d.client.Guarded (g.principal.kind = .user ∧ g.entitlement.resource.id.kind = .group ∧
      g.entitlement.slug ∈ ResourceKind.slugs .group) (revoke d g) :=
  .holding g.principal g.entitlement (checks_accessOf g.entitlement.slug) fun _ _ _ =>
    d.guarded_mutate _ rfl _ _

lemma guarded_grants (r : Resource) (pt : PageToken) :
    d.client.Guarded (r.id.kind = .group) (grants d r pt) := by
  refine (Client.Guarded.check (r.id.checks_expectKind .group) fun group _ =>
    .of_keeps fun h => ?_).congr (by simp)
  refine (Catalog.keeps_fetch h (.groupMembers group) pt).bind fun page => ?_
  refine Step.Keeps.bind ⟨?_, ?_⟩ fun _ => Step.keeps_pure _
  · intro s hs
    rw [logSkipped_apply]
    exact h.noting _ _ hs
  · simp [logSkipped_apply]

end Groups

/-! ### Roles -/

namespace Roles

variable (d : Directory)

lemma checks_expectSlug (s : String) : Checks (expectSlug s) (s ∈ ResourceKind.slugs .role) := by
  by_cases h : s = slug
  · exact .inl ⟨by simp [ResourceKind.slugs, h, slug], (), if_pos h⟩
  · exact .inr ⟨by simpa [ResourceKind.slugs, slug] using h, _, if_neg h⟩

lemma checks_entitlements (r : Resource) : Checks (entitlements r) (r.id.kind = .role) := by
  rcases r.id.checks_expectKind .role with ⟨h, a, ha⟩ | ⟨h, cause, hc⟩
  · exact .inl ⟨h, _, by simp only [entitlements, ha]; rfl⟩
  · exact .inr ⟨h, cause, by simp only [entitlements, hc]; rfl⟩

lemma guarded_grant (principal : Resource) (e : Entitlement) :
    d.client.Guarded (principal.id.kind = .user ∧ e.resource.id.kind = .role ∧
      e.slug ∈ ResourceKind.slugs .role) (grant d principal e) :=
  .holding principal.id e (checks_expectSlug e.slug) fun _ _ _ => d.guarded_mutate _ rfl _ _

lemma guarded_revoke (g : Grant) :
    d.client.Guarded (g.principal.kind = .user ∧ g.entitlement.resource.id.kind = .role ∧
      g.entitlement.slug ∈ ResourceKind.slugs .role) (revoke d g) :=
  .holding g.principal g.entitlement (checks_expectSlug g.entitlement.slug) fun _ _ _ =>
    d.guarded_mutate _ rfl _ _

lemma guarded_grants (r : Resource) (pt : PageToken) :
    d.client.Guarded (r.id.kind = .role) (grants d r pt) := by
  refine (Client.Guarded.check (r.id.checks_expectKind .role) fun _ _ =>
    .of_keeps fun h => ?_).congr (by simp)
  exact (Catalog.keeps_drain h .members).bind fun _ => Step.keeps_pure _

end Roles

/-! ### Accounts -/

namespace Text

lemma trimChars_eq_nil_iff {cs : List Char} : trimChars cs = [] ↔ ∀ c ∈ cs, isBlank c = true := by
  rw [trimChars, dropEndWhile, List.reverse_eq_nil_iff, List.dropWhile_eq_nil_iff]
  simp only [List.mem_reverse]
  refine ⟨fun h c hc => ?_, fun h c hc => h c (List.dropWhile_subset _ hc)⟩
  -- a character is dropped in front, and so a blank, or it is left over
  rw [← List.takeWhile_append_dropWhile (p := isBlank) (l := cs), List.mem_append] at hc
  rcases hc with hc | hc
  · exact List.mem_takeWhile_imp hc
  · exact h c hc

/-- A string is blank if nothing is left of it when it is trimmed. -/
lemma blank_iff {s : String} : blank s = true ↔ trim s = "" := by
  rw [blank, List.all_eq_true, trim, ← String.toList_inj, String.toList_ofList, String.toList_empty,
    trimChars_eq_nil_iff]

end Text

lemma InviteAnswer.provisioning_of_newMember {a : InviteAnswer} {e : Error}
    (h : a.newMember = .error e) : ∃ cause, e = .provisioning cause := by
  unfold newMember at h
  split at h
  · exact ⟨_, (Except.error.inj h).symm⟩
  · split_ifs at h
    · split at h
      · cases h
      · exact ⟨_, (Except.error.inj h).symm⟩
    · exact ⟨_, (Except.error.inj h).symm⟩

lemma InviteAnswer.newMember_error {a : InviteAnswer} {e : Error} (h : a.newMember = .error e) :
    e.IsOutcome := by
  obtain ⟨cause, rfl⟩ := provisioning_of_newMember h
  exact Error.isOutcome_provisioning cause

namespace Users

variable (d : Directory)

lemma email?_eq_some_iff {attributes : Json.Members} {address : String} :
    email? attributes = some address ↔
      ∃ s, attributes.get? "email" = some (.string s) ∧ Text.trim s = address ∧ address ≠ "" := by
  simp only [email?]
  split
  · rename_i s h
    by_cases hb : Text.blank s = true
    · simp [hb, Text.blank_iff.mp hb, h, eq_comm (a := "")]
    · have hne : Text.trim s ≠ "" := Text.blank_iff.not.mp hb
      simp only [hb, h, Bool.false_eq_true, if_false, Option.some.injEq, Json.Value.string.injEq,
        exists_eq_left']
      exact ⟨fun ha => ⟨ha, ha ▸ hne⟩, And.left⟩
  · rename_i h
    simpa using fun s hs => absurd hs (h s)

lemma email?_isSome {attributes : Json.Members} : (email? attributes).isSome = true ↔
    ∃ s, attributes.get? "email" = some (.string s) ∧ Text.trim s ≠ "" := by
  simp only [Option.isSome_iff_exists, email?_eq_some_iff]
  exact ⟨fun ⟨_, s, hs, ht, ha⟩ => ⟨s, hs, ht ▸ ha⟩, fun ⟨s, hs, ha⟩ => ⟨_, s, hs, rfl, ha⟩⟩

lemma guarded_create (attributes : Json.Members) :
    d.client.Guarded
      (∃ s, attributes.get? "email" = some (.string s) ∧ Text.trim s ≠ "")
      (create d attributes) := by
  rw [← email?_isSome]
  rcases he : email? attributes with _ | email
  · refine ⟨fun _ s => ⟨.argument (.missingField "email"), [], ?_, _, rfl⟩, by simp⟩
    simp [create, he]
  · refine (Client.Guarded.of_keeps fun h => ?_).congr (by simp)
    simp only [create, he]
    refine (Step.Keeps.rescue_log h.noting (Directory.keeps_invite h email) _ _ _).bind
      fun a => (Step.keeps_ofExcept fun e hn => h.outcome e (InviteAnswer.newMember_error hn)).bind
        fun p => (Step.keeps_log h.noting _ _ _ _).bind fun _ => Step.keeps_pure _

lemma guarded_delete (id : ResourceId) :
    d.client.Guarded (id.kind = .user) (delete d id) := by
  refine (Client.Guarded.check (id.checks_expectKind .user) fun member _ =>
    .of_keeps fun h => ?_).congr (by simp)
  exact (Step.Keeps.rescue_log h.noting (Directory.keeps_remove h member) _ _ _).bind
    fun _ => Step.keeps_pure _

end Users

/-! ### Actions -/

namespace Action

variable (d : Directory)

/-- The member that an action is about is named by a string that is not empty. -/
lemma memberOf_cases (args : Json.Members) :
    (∃ m, memberOf args = .ok m ∧ args.get? "user_id" = some (.string m) ∧ m ≠ "") ∨
      (∃ problem, memberOf args = .error problem) ∧
        ¬∃ m, args.get? "user_id" = some (.string m) ∧ m ≠ "" := by
  rcases h : args.get? "user_id" with _ | v
  · exact .inr ⟨⟨_, by simp only [memberOf, h]; rfl⟩, by simp⟩
  · cases v with
    | string m =>
      by_cases hm : m = ""
      · exact .inr ⟨⟨_, by simp only [memberOf, h, hm, if_true]; rfl⟩, by simp [hm]⟩
      · exact .inl ⟨m, by simp only [memberOf, h, hm, if_false], rfl, hm⟩
    | _ => exact .inr ⟨⟨_, by simp only [memberOf, h]; rfl⟩, by simp⟩

lemma keeps_apply {I : Session → Prop} {F : Error → Prop} (h : d.client.Keeping I F) (a : Action)
    (member : String) : Step.Keeps I F (a.apply d member) := by
  cases a
  · exact Directory.keeps_mutate h .suspend (Operation.carries_of_not rfl _)
  · exact Directory.keeps_mutate h .unsuspend (Operation.carries_of_not rfl _)

lemma guarded_run (a : Action) (args : Json.Members) :
    d.client.Guarded (∃ m, args.get? "user_id" = some (.string m) ∧ m ≠ "") (run d a args) := by
  rcases memberOf_cases args with ⟨m, hm, hok⟩ | ⟨⟨problem, hp⟩, hno⟩
  · have hx : a.extractMember args = pure m := by simp only [extractMember, hm]
    refine (Client.Guarded.of_keeps fun h => ?_).congr (by simpa using ⟨m, hok⟩)
    rw [run, hx, pure_bind]
    exact (Step.Keeps.rescue_log h.noting (keeps_apply d h a m) _ _ _).bind fun outcome =>
      (Step.keeps_log h.noting _ _ _ _).bind fun _ => Step.keeps_pure _
  · refine ⟨fun _ s => ⟨.argument (.invalid problem),
      [⟨.warn, problem, [("action", .text a.name)], []⟩], ?_, _, rfl⟩, fun h => absurd h hno⟩
    have hx : a.extractMember args s = (.error (.argument (.invalid problem)),
        s.noting [⟨.warn, problem, [("action", .text a.name)], []⟩]) := by
      simp only [extractMember, hp]
      rfl
    rw [run, Step.bind_of_error hx]

end Action

/-! ### Commands -/

namespace Connector

variable (k : Connector)

lemma guarded_list (kind : ResourceKind) (parent : Option ResourceId) (pt : PageToken) :
    k.directory.client.Guarded True ((k.syncer kind).list parent pt) := by
  refine .of_keeps fun h => ?_
  cases kind with
  | user => exact (Catalog.keeps_fetch h .members pt).bind fun _ => Step.keeps_pure _
  | group => exact (Catalog.keeps_fetch h .groups pt).bind fun _ => Step.keeps_pure _
  | role =>
    exact (Catalog.keeps_drain h .members).bind fun all =>
      (Step.keeps_log h.noting _ _ _ _).bind fun _ => Step.keeps_pure _

lemma guarded_invoke (action : String) (args : Json.Members) :
    k.directory.client.Guarded (action ∈ Action.all.map Action.name ∧
      ∃ m, args.get? "user_id" = some (.string m) ∧ m ≠ "") (k.invoke action args) := by
  rcases ha : Action.ofName? action with _ | a
  · have hno : action ∉ Action.all.map Action.name := by
      simpa [Action.ofName?, List.mem_map] using ha
    refine ⟨fun _ s => ⟨.argument (.invalid ("unknown action '" ++ action ++ "'")), [], ?_, _, rfl⟩,
      fun h => absurd h.1 hno⟩
    simp [invoke, ha]
  · have hmem : action ∈ Action.all.map Action.name := by
      have hn : a.name = action := by simpa using List.find?_some ha
      exact List.mem_map.mpr ⟨a, List.mem_of_find?_eq_some ha, hn⟩
    have hinv : k.invoke action args = a.run k.directory args := by simp only [invoke, ha]
    rw [hinv]
    exact (Action.guarded_run k.directory a args).congr (by simp [hmem])

/-- **Every command is guarded by the form of its arguments.** -/
theorem guarded_perform (cmd : Command) :
    k.directory.client.Guarded (¬cmd.Malformed) (k.perform cmd) := by
  have hpure (r : Reply) : k.directory.client.Guarded True (pure r : Step Reply) :=
    .of_keeps fun _ => Step.keeps_pure r
  cases cmd with
  | list kind parent pt =>
    exact ((k.guarded_list kind parent pt).map Reply.resources).congr (by simp [Command.Malformed])
  | entitlements kind r =>
    cases kind with
    | user => exact (hpure (.entitlements [])).congr (by simp [Command.Malformed])
    | group =>
      exact ((Client.Guarded.ofExcept (Groups.checks_entitlements r)).map Reply.entitlements).congr
        (by simp [Command.Malformed])
    | role =>
      exact ((Client.Guarded.ofExcept (Roles.checks_entitlements r)).map Reply.entitlements).congr
        (by simp [Command.Malformed])
  | grants kind r pt =>
    cases kind with
    | user => exact (hpure (.grants (.last [] []))).congr (by simp [Command.Malformed])
    | group =>
      exact ((Groups.guarded_grants k.directory r pt).map Reply.grants).congr
        (by simp [Command.Malformed])
    | role =>
      exact ((Roles.guarded_grants k.directory r pt).map Reply.grants).congr
        (by simp [Command.Malformed])
  | grant kind principal e =>
    cases kind with
    | user => exact (hpure .noProvisioner).congr (by simp [Command.Malformed])
    | group =>
      exact ((Groups.guarded_grant k.directory principal e).map Reply.annotations).congr
        (by simp [Command.Malformed])
    | role =>
      exact ((Roles.guarded_grant k.directory principal e).map Reply.annotations).congr
        (by simp [Command.Malformed])
  | revoke kind g =>
    cases kind with
    | user => exact (hpure .noProvisioner).congr (by simp [Command.Malformed])
    | group =>
      exact ((Groups.guarded_revoke k.directory g).map Reply.annotations).congr
        (by simp [Command.Malformed])
    | role =>
      exact ((Roles.guarded_revoke k.directory g).map Reply.annotations).congr
        (by simp [Command.Malformed])
  | createAccount kind attributes =>
    cases kind with
    | user =>
      exact ((Users.guarded_create k.directory attributes).map Reply.account).congr
        (by simp [Command.Malformed])
    | group => exact (hpure .noAccountManager).congr (by simp [Command.Malformed])
    | role => exact (hpure .noAccountManager).congr (by simp [Command.Malformed])
  | deleteAccount kind id =>
    cases kind with
    | user =>
      exact ((Users.guarded_delete k.directory id).map Reply.annotations).congr
        (by simp [Command.Malformed])
    | group => exact (hpure .noAccountManager).congr (by simp [Command.Malformed])
    | role => exact (hpure .noAccountManager).congr (by simp [Command.Malformed])
  | invoke action args =>
    exact ((k.guarded_invoke action args).map fun r => Reply.value r.1 r.2).congr
      (by simp [Command.Malformed])
  | validate => exact (hpure (.annotations [])).congr (by simp [Command.Malformed])

end Connector

/-! ### Sessions -/

/-- What a session's source of tokens fails with is a failure to authenticate. -/
def Session.Authenticates (s : Session) : Prop :=
  ∀ src, s.source = some src → ∀ e, .error e ∈ src.current :: src.later →
    ∃ cause, e.root = .authentication cause

namespace Client

variable (c : Client)

lemma refusal_of_authenticates {s : Session} (hs : s.Authenticates) {e : Error}
    (h : sendable (c.token s).1 = .error e) : ¬e.IsArgument := by
  rcases sendable_eq_error h with h | rfl
  case inr => exact nofun
  rcases c.token_cases s with ⟨_, _, ht⟩ | ⟨_, _, ht⟩ | ⟨src, _, hsrc, ht⟩ <;> rw [ht] at h
  · cases h
  · cases h; simp [Error.IsArgument, Error.root]
  · obtain ⟨cause, hc⟩ := hs src hsrc e (h ▸ List.mem_cons_self)
    simp [Error.IsArgument, hc]

lemma authenticates_token {s : Session} (hs : s.Authenticates) : (c.token s).2.Authenticates := by
  rcases c.token_cases s with ⟨_, _, ht⟩ | ⟨_, _, ht⟩ | ⟨src, _, hsrc, ht⟩ <;> rw [ht]
  · exact hs
  · exact hs
  · rintro _ ⟨⟩ e he
    refine hs src hsrc e ?_
    rcases hl : src.later with _ | ⟨a, as⟩
    · simpa [TokenSource.advance, hl] using he
    · exact List.mem_cons_of_mem _ (by simpa [TokenSource.advance, hl] using he)

lemma keeping_authenticates : c.Keeping Session.Authenticates (¬·.IsArgument) where
  noting _ _ hs := hs
  token _ := c.authenticates_token
  refusal _ _ hs he _ := Error.isArgument_within.not.mpr (c.refusal_of_authenticates hs he)
  spend _ _ _ _ _ _ hs := hs
  outcome _ := Error.IsOutcome.not_isArgument

variable {α : Type} (op : Operation)

/-- A call without a body fails for an argument and leaves the session as it was. -/
lemma call_none (d : Json.Decoder α) (s : Session) :
    ∃ e, c.call d op none s = (.error e, s) ∧ e.IsArgument :=
  ⟨.within op (.argument (.invalid (op.name ++ " requires a request body"))), rfl, _, rfl⟩

lemma callDiscard_none (s : Session) :
    ∃ e, c.callDiscard op none s = (.error e, s) ∧ e.IsArgument :=
  ⟨.within op (.argument (.invalid (op.name ++ " requires a request body"))), rfl, _, rfl⟩

/-- A round trip does not fail for an argument, whatever its body says. -/
lemma not_isArgument_roundTrip {op : Operation} {body : Json.Value}
    {outcome : Option Answer → Except Error α} {told : Option Answer → List Event} {s : Session}
    (hs : s.Authenticates) (ho : ∀ a e, outcome a = .error e → ¬e.IsArgument) {e : Error}
    (h : (c.roundTrip op body outcome told s).1 = .error e) : ¬e.IsArgument := by
  rcases roundTrip_error h with ⟨e', ht, rfl⟩ | ⟨a, ha⟩
  · exact Error.isArgument_within.not.mpr (c.refusal_of_authenticates hs ht)
  · exact ho a e ha

end Client

namespace Connector

/-- **Arguments are checked first, and nothing else fails for them.** A command fails for an
argument exactly if its arguments are malformed, and a call does so exactly if it has no body.
Then no request is sent, no answer is taken and no token is asked for. -/
theorem fails_fast (k : Connector) (c : Client) {s : Session} (hs : s.Authenticates) :
    (∀ cmd : Command,
      ((∃ e, (k.perform cmd s).1 = .error e ∧ e.IsArgument) ↔ cmd.Malformed) ∧
      (cmd.Malformed → s.Alike (k.perform cmd s).2)) ∧
    (∀ (α : Type) (d : Json.Decoder α) (op : Operation) (body : Option Json.Value),
      ((∃ e, (c.call d op body s).1 = .error e ∧ e.IsArgument) ↔ body = none) ∧
      (body = none → s.Alike (c.call d op body s).2)) ∧
    (∀ (op : Operation) (body : Option Json.Value),
      ((∃ e, (c.callDiscard op body s).1 = .error e ∧ e.IsArgument) ↔ body = none) ∧
      (body = none → s.Alike (c.callDiscard op body s).2)) := by
  refine ⟨fun cmd => ?_, fun α d op body => ?_, fun op body => ?_⟩
  · have hg := k.guarded_perform cmd
    refine ⟨⟨?_, fun hm => ?_⟩, fun hm => ?_⟩
    · rintro ⟨e, he, ha⟩
      by_contra hn
      exact (hg.keeps hn k.directory.client.keeping_authenticates).failure hs e he ha
    · obtain ⟨e, es, hp, he⟩ := hg.refuses (not_not.mpr hm) s
      exact ⟨e, by rw [hp], he⟩
    · obtain ⟨e, es, hp, -⟩ := hg.refuses (not_not.mpr hm) s
      rw [hp]
      exact .noting_right (.refl s) es
  · rcases body with _ | body
    · obtain ⟨e, hc, he⟩ := c.call_none op d s
      exact ⟨⟨fun _ => rfl, fun _ => ⟨e, by rw [hc], he⟩⟩, fun _ => by rw [hc]⟩
    · refine ⟨⟨?_, nofun⟩, nofun⟩
      rintro ⟨e, he, ha⟩
      rw [Client.call_eq] at he
      exact absurd ha
        (c.not_isArgument_roundTrip hs (fun _ _ => c.not_isArgument_read d) he)
  · rcases body with _ | body
    · obtain ⟨e, hc, he⟩ := c.callDiscard_none op s
      exact ⟨⟨fun _ => rfl, fun _ => ⟨e, by rw [hc], he⟩⟩, fun _ => by rw [hc]⟩
    · refine ⟨⟨?_, nofun⟩, nofun⟩
      rintro ⟨e, he, ha⟩
      rw [Client.callDiscard_eq] at he
      exact absurd ha (c.not_isArgument_roundTrip hs (fun _ _ => c.not_isArgument_accept) he)

end Connector

/-! ### A sample -/

namespace Sample

/-- A source that has one token and then has failed. -/
def failing : TokenSource := ⟨.ok "sl.token", [.error (.authentication (.tokenSource "down"))]⟩

/-- A session with an answer waiting. -/
def failingSession : Session := ⟨⟨[.failure .timeout], none, []⟩, some failing, 0, []⟩

lemma authenticates_failingSession : failingSession.Authenticates := by
  rintro _ ⟨⟩ e he
  obtain rfl : e = .authentication (.tokenSource "down") := by simpa [failing] using he
  exact ⟨_, rfl⟩

/-- The attributes of an account whose address is blank. -/
def blankAttributes : Json.Members := [("email", .string " 	")]

lemma malformed_blankAttributes : (Command.createAccount .user blankAttributes).Malformed := by
  refine ⟨rfl, ?_⟩
  rintro ⟨s, hs, hne⟩
  obtain rfl : " 	" = s := by simpa [blankAttributes, Json.Members.get?] using hs
  exact hne (by decide)

end Sample

open Sample in
theorem Connector.fails_fast_blankAttributes :
    failingSession.Authenticates ∧
      ∃ k : Connector,
        (∃ e, (k.perform (.createAccount .user blankAttributes) failingSession).1 = .error e ∧
          e.IsArgument) ∧
        failingSession.Alike
          (k.perform (.createAccount .user blankAttributes) failingSession).2 := by
  refine ⟨authenticates_failingSession, .ofClient client .standard, ?_⟩
  have h := (fails_fast (.ofClient client .standard) client authenticates_failingSession).1
    (.createAccount .user blankAttributes)
  exact ⟨h.1.mpr malformed_blankAttributes, h.2 malformed_blankAttributes⟩

end TeamSync
