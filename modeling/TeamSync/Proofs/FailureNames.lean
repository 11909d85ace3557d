import TeamSync.Proofs.Blame

/-!
The operation that the failure of a command names. A command calls its operations in a fixed order,
and what goes wrong with one of these calls is told under the operation of that call and no other.
The end of an account is the exception, when its removal succeeds and says nothing.
-/

namespace TeamSync

open Json

/-! ### Commands -/

/-- What is done for a user with something to hold is blamed for what comes after the checks. -/
lemma Client.Blames.holding {c : Client} {α β : Type} {callee? : ℕ → Option Operation}
    (user : ResourceId) (e : Entitlement) {kind : ResourceKind} {r : Except Error α} {p : Prop}
    (hr : Checks r p) {f : String → String → α → Step β}
    (hf : ∀ member id a, c.Blames callee? (f member id a)) :
    c.Blames callee? (do
      let member ← Step.ofExcept user.expectUser
      let id ← Step.ofExcept (e.resource.id.expectKind kind)
      let a ← Step.ofExcept r
      f member id a) :=
  quiet_bind (Step.quiet_of_checks user.checks_expectUser) fun member =>
    quiet_bind (Step.quiet_of_checks (e.resource.id.checks_expectKind kind)) fun id =>
      quiet_bind (Step.quiet_of_checks hr) fun a => hf member id a

/-- A change that is reported in annotations. -/
lemma Directory.blames_change (d : Directory) (kind : MutationKind) (op : Operation) (body : Value)
    (noop : Annotation) :
    d.client.Blames op.once (do
      let outcome ← d.mutate kind op body
      pure (outcome.annotations noop)) :=
  (d.blames_mutate kind op body).bind_quiet fun _ => Step.quiet_pure _

namespace Groups

variable (d : Directory)

lemma blames_grant (principal : Resource) (e : Entitlement) :
    d.client.Blames Operation.addGroupMembers.once (grant d principal e) :=
  .holding principal.id e (checks_accessOf e.slug) fun _ _ _ => d.blames_change _ _ _ _

lemma blames_revoke (g : Grant) :
    d.client.Blames Operation.removeGroupMembers.once (revoke d g) :=
  .holding g.principal g.entitlement (checks_accessOf g.entitlement.slug) fun _ _ _ =>
    d.blames_change _ _ _ _

lemma quiet_logSkipped (ms : List GroupMember) : (logSkipped ms).Quiet := by
  constructor <;> intro s
  · rw [logSkipped_apply]
    exact ⟨rfl, rfl, rfl⟩
  · simp [logSkipped_apply]

lemma blames_grants (r : Resource) (pt : PageToken) :
    d.client.Blames (Operation.list .groupMembers pt.phase).once (grants d r pt) :=
  .quiet_bind (Step.quiet_of_checks (r.id.checks_expectKind .group)) fun group =>
    (Catalog.blames_fetch d (.groupMembers group) pt).bind_quiet fun page =>
      (quiet_logSkipped page.items).bind fun _ => Step.quiet_pure _

end Groups

namespace Roles

variable (d : Directory)

lemma blames_grant (principal : Resource) (e : Entitlement) :
    d.client.Blames Operation.setAdminPermissions.once (grant d principal e) :=
  .holding principal.id e (checks_expectSlug e.slug) fun _ _ _ => d.blames_change _ _ _ _

lemma blames_revoke (g : Grant) :
    d.client.Blames Operation.setAdminPermissions.once (revoke d g) :=
  .holding g.principal g.entitlement (checks_expectSlug g.entitlement.slug) fun _ _ _ =>
    d.blames_change _ _ _ _

lemma blames_list (parent : Option ResourceId) (pt : PageToken) :
    d.client.Blames Listing.members.through (list d parent pt) :=
  (Catalog.blames_drain d .members).bind_quiet fun _ =>
    (Step.quiet_log _ _ _).bind fun _ => Step.quiet_pure _

lemma blames_grants (r : Resource) (pt : PageToken) :
    d.client.Blames Listing.members.through (grants d r pt) :=
  .quiet_bind (Step.quiet_of_checks (r.id.checks_expectKind .role)) fun _ =>
    (Catalog.blames_drain d .members).bind_quiet fun _ => Step.quiet_pure _

end Roles

namespace Users

variable (d : Directory)

lemma blames_create (attributes : Members) :
    d.client.Blames Operation.addMember.once (create d attributes) := by
  rcases he : email? attributes with _ | email
  · simp only [create, he]
    exact .of_quiet (Step.quiet_fail (Error.not_isUpstream_argument _))
  · simp only [create, he]
    refine ((d.blames_invite email).rescue_log _ _ _).bind_quiet fun a => ?_
    refine Step.Quiet.bind (Step.quiet_ofExcept fun e hn => ?_) fun p =>
      (Step.quiet_log _ _ _).bind fun _ => Step.quiet_pure _
    obtain ⟨cause, rfl⟩ := InviteAnswer.provisioning_of_newMember hn
    exact Error.not_isUpstream_provisioning cause

lemma blames_delete (id : ResourceId) :
    d.client.Blames Operation.removeMember.once (delete d id) :=
  .quiet_bind (Step.quiet_of_checks (id.checks_expectKind .user)) fun member =>
    ((d.blames_remove member).rescue_log _ _ _).bind_quiet fun _ => Step.quiet_pure _

end Users

namespace Action

/-- The operation that an action calls. -/
def op : Action → Operation
  | .disableUser => .suspendMember
  | .enableUser => .unsuspendMember

lemma quiet_extractMember (a : Action) (args : Members) : (a.extractMember args).Quiet := by
  unfold extractMember
  split
  · exact Step.quiet_pure _
  · exact (Step.quiet_log _ _ _).bind fun _ =>
      Step.quiet_fail (Error.not_isUpstream_argument _)

lemma blames_run (d : Directory) (a : Action) (args : Members) :
    d.client.Blames a.op.once (run d a args) := by
  have happly (member : String) : d.client.Blames a.op.once (a.apply d member) := by
    cases a
    · exact d.blames_mutate _ _ _
    · exact d.blames_mutate _ _ _
  exact .quiet_bind (quiet_extractMember a args) fun member =>
    ((happly member).rescue_log _ _ _).bind_quiet fun _ =>
      (Step.quiet_log _ _ _).bind fun _ => Step.quiet_pure _

end Action

/-- The operation of the call with some number that a command makes. -/
def Command.callee? : Command → ℕ → Option Operation
  | .list .user _ pt => (Operation.list .members pt.phase).once
  | .list .group _ pt => (Operation.list .groups pt.phase).once
  | .grants .group _ pt => (Operation.list .groupMembers pt.phase).once
  | .list .role .. | .grants .role .. => Listing.members.through
  | .grant .group .. => Operation.addGroupMembers.once
  | .revoke .group _ => Operation.removeGroupMembers.once
  | .grant .role .. | .revoke .role _ => Operation.setAdminPermissions.once
  | .createAccount .user _ => Operation.addMember.once
  | .deleteAccount .user _ => Operation.removeMember.once
  | .invoke name _ => fun i => (Action.ofName? name).bind fun a => a.op.once i
  | _ => fun _ => none

namespace Connector

variable (k : Connector)

lemma blames_invoke (name : String) (args : Members) :
    k.directory.client.Blames (Command.invoke name args).callee? (k.invoke name args) := by
  rcases ha : Action.ofName? name with _ | a
  · simp only [invoke, ha]
    exact .of_quiet (Step.quiet_fail (Error.not_isUpstream_argument _))
  · have hcallee : (Command.invoke name args).callee? = a.op.once := by
      funext i
      simp [Command.callee?, ha]
    simp only [invoke, ha, hcallee]
    exact a.blames_run k.directory args

lemma quiet_entitlements (kind : ResourceKind) (r : Resource) :
    (Step.ofExcept ((k.syncer kind).entitlements r)).Quiet := by
  refine Step.quiet_ofExcept fun e he => ?_
  have hcheck := r.id.checks_expectKind kind
  cases kind with
  | user => cases he
  | group =>
    rcases hcheck with ⟨-, a, ha⟩ | ⟨-, cause, hc⟩
    · simp [syncer, Groups.syncer, Groups.entitlements, ha, bind, Except.bind, pure,
        Except.pure] at he
    · obtain rfl : .argument cause = e := by
        simpa [syncer, Groups.syncer, Groups.entitlements, hc, bind, Except.bind] using he
      exact Error.not_isUpstream_argument cause
  | role =>
    rcases hcheck with ⟨-, a, ha⟩ | ⟨-, cause, hc⟩
    · simp [syncer, Roles.syncer, Roles.entitlements, ha, bind, Except.bind, pure,
        Except.pure] at he
    · obtain rfl : .argument cause = e := by
        simpa [syncer, Roles.syncer, Roles.entitlements, hc, bind, Except.bind] using he
      exact Error.not_isUpstream_argument cause

/-- **Every failure upstream names its operation**, or is a mute removal. -/
lemma blames_perform (cmd : Command) :
    k.directory.client.Blames cmd.callee? (k.perform cmd) := by
  cases cmd with
  | list kind parent pt =>
    cases kind with
    | user =>
      exact ((Catalog.blames_fetch k.directory .members pt).bind_quiet fun _ =>
        Step.quiet_pure _).map _
    | group =>
      exact ((Catalog.blames_fetch k.directory .groups pt).bind_quiet fun _ =>
        Step.quiet_pure _).map _
    | role => exact (Roles.blames_list k.directory parent pt).map _
  | entitlements kind r =>
    exact .of_quiet ((k.quiet_entitlements kind r).bind fun _ => Step.quiet_pure _)
  | grants kind r pt =>
    cases kind with
    | user => exact .of_quiet ((Step.quiet_pure _).bind fun _ => Step.quiet_pure _)
    | group => exact (Groups.blames_grants k.directory r pt).map _
    | role => exact (Roles.blames_grants k.directory r pt).map _
  | grant kind principal e =>
    cases kind with
    | user => exact .of_quiet (Step.quiet_pure _)
    | group => exact (Groups.blames_grant k.directory principal e).map _
    | role => exact (Roles.blames_grant k.directory principal e).map _
  | revoke kind g =>
    cases kind with
    | user => exact .of_quiet (Step.quiet_pure _)
    | group => exact (Groups.blames_revoke k.directory g).map _
    | role => exact (Roles.blames_revoke k.directory g).map _
  | createAccount kind attributes =>
    cases kind with
    | user => exact (Users.blames_create k.directory attributes).map _
    | group => exact .of_quiet (Step.quiet_pure _)
    | role => exact .of_quiet (Step.quiet_pure _)
  | deleteAccount kind id =>
    cases kind with
    | user => exact (Users.blames_delete k.directory id).map _
    | group => exact .of_quiet (Step.quiet_pure _)
    | role => exact .of_quiet (Step.quiet_pure _)
  | invoke name args => exact (k.blames_invoke name args).map _
  | validate => exact .of_quiet ((Step.quiet_pure _).bind fun _ => Step.quiet_pure _)

end Connector

/-! ### The operation that is named -/

/-- Nothing but the end of an account calls for a removal. -/
lemma Command.eq_of_callee? {cmd : Command} {i : ℕ} (h : cmd.callee? i = some .removeMember) :
    i = 0 ∧ ∃ id, cmd = .deleteAccount .user id := by
  have honce {op : Operation} (ho : op.once i = some .removeMember) :
      i = 0 ∧ op = .removeMember := by
    simpa [Operation.once] using ho
  have hlist (l : Listing) (phase : Phase) : Operation.list l phase ≠ .removeMember := by
    cases l <;> cases phase <;> simp [Operation.list]
  cases cmd with
  | list kind parent pt =>
    cases kind with
    | role => exact absurd (Option.some.inj h) (hlist _ _)
    | _ => exact absurd (honce h).2 (hlist _ _)
  | entitlements => cases h
  | grants kind r pt =>
    cases kind with
    | user => cases h
    | group => exact absurd (honce h).2 (hlist _ _)
    | role => exact absurd (Option.some.inj h) (hlist _ _)
  | grant kind =>
    cases kind with
    | user => cases h
    | _ => cases (honce h).2
  | revoke kind =>
    cases kind with
    | user => cases h
    | _ => cases (honce h).2
  | createAccount kind =>
    cases kind with
    | user => cases (honce h).2
    | _ => cases h
  | deleteAccount kind id =>
    cases kind with
    | user => exact ⟨(honce h).1, id, rfl⟩
    | _ => cases h
  | invoke name args =>
    obtain ⟨a, -, ha⟩ := Option.bind_eq_some_iff.mp h
    cases a <;> cases (honce ha).2
  | validate => cases h

/-- If the provider's own errors are outside of all operations, then so is why a call fails. -/
lemma Client.Fails.operations {c : Client} {op : Operation} {s : Session} {i : ℕ} {e : Error}
    (h : c.Fails op (c.upshot s i) e)
    (hbare : ∀ e', c.tokenAt s i = .error e' → e'.operations = []) : e.operations = [] := by
  generalize hu : c.upshot s i = r at h
  cases h with
  | token =>
    rcases hs : sendable (c.tokenAt s i) with e' | t
    · rw [upshot, hs] at hu
      cases hu
      rcases sendable_eq_error hs with ht | rfl
      · exact hbare e ht
      · rfl
    · rw [upshot, hs] at hu
      cases hu
  | rejected h => cases h <;> rfl
  | undecodable => rfl

lemma Client.Mute.unnamed {op : Operation} {r : Except Error (Option Answer)} {e : Error}
    (h : Mute op r e) : op = .removeMember ∧ e.operations = [] := by
  cases h
  exact ⟨rfl, rfl⟩

namespace Connector

variable {k : Connector} {cmd : Command} {s : Session} {e : Error}

/-- **A failure names the operation that failed.** A command that fails for the network, for a
token or for an answer has made some calls, to the operations that such a command calls in this
order, and all but the last have sent their requests. If the provider's own errors are outside of
all operations, the error is put under the operation of the last call and under no other, and its
root is why that call failed: there was no token that could be sent, or the answer to its request
was no success or could not be read. The one failure that names no operation is that of a removal
which succeeds and says nothing. -/
theorem failures_name_operation
    (hbare : ∀ i e, k.directory.client.tokenAt s i = .error e → e.operations = [])
    (h : (k.perform cmd s).1 = .error e) (hup : e.IsUpstream) :
    ∃ xs y, cmd.callee? xs.length = some (Call.op y) ∧
      (∀ i < xs.length, ∃ t, sendable (k.directory.client.tokenAt s i) = .ok t) ∧
      (k.perform cmd s).2.Alike (k.directory.client.makeAll s (xs ++ [y])) ∧
      ((e = .within y.op e.root ∧ e.operations = [y.op.label] ∧
          k.directory.client.Fails y.op (k.directory.client.upshot s xs.length) e.root) ∨
        (e.operations = [] ∧ xs = [] ∧ (∃ id, cmd = .deleteAccount .user id) ∧
          Client.Mute .removeMember (k.directory.client.upshot s 0) e)) := by
  obtain ⟨xs, y, hcallee, htokens, hsession, hnames⟩ := k.blames_perform cmd s e h hup
  refine ⟨xs, y, hcallee, htokens, hsession, ?_⟩
  rcases hnames with ⟨e', rfl, hfails⟩ | hmute
  · have hops := hfails.operations (hbare xs.length)
    have hroot : (Error.within y.op e').root = e' := Error.root_of_operations hops
    rw [hroot]
    exact .inl ⟨rfl, by rw [Error.operations, hops], hfails⟩
  · obtain ⟨hop, hops⟩ := hmute.unnamed
    rw [hop] at hcallee hmute
    obtain ⟨hlen, hcmd⟩ := Command.eq_of_callee? hcallee
    rw [hlen] at hmute
    exact .inr ⟨hops, List.length_eq_zero_iff.mp hlen, hcmd, hmute⟩

/-- The end of an account fails so whenever the removal is mute. -/
lemma perform_of_mute {r : Except Error (Option Answer)} (hr : k.directory.client.upshot s 0 = r)
    (h : Client.Mute .removeMember r e) (member : String) :
    (k.perform (.deleteAccount .user ⟨.user, member⟩) s).1 = .error e := by
  have hremove := k.directory.remove_of_mute member hr h
  have hp : k.perform (.deleteAccount .user ⟨.user, member⟩) =
      Reply.annotations <$> Users.delete k.directory ⟨.user, member⟩ := rfl
  have hid : Step.ofExcept (ResourceId.expectKind ⟨.user, member⟩ .user) = pure member := rfl
  rw [hp, Step.map_apply, Users.delete, hid, pure_bind, Step.bind_apply, Step.rescue_log_apply]
  rcases hs : k.directory.remove member s with ⟨e' | v, s₁⟩ <;> rw [hs] at hremove
  · cases hremove
    rfl
  · cases hremove

end Connector

/-! ### Samples -/

namespace Sample

/-- A page of members that leads on, and then no answer in time. -/
def cutShort : Session := session [written .members ⟨"c", true, []⟩, .failure .timeout]

lemma chain_cutShort : Catalog.Chain directory .members cutShort.transport
    [(⟨"c", true, []⟩ : PageBody Member).page .unreported] :=
  (Catalog.chain_cons_iff (Catalog.members.request directory "sl.token" .start)).mpr
    ⟨⟨_, rfl, page?_written .members ⟨"c", true, []⟩, rfl, by decide⟩, Catalog.chain_nil _⟩

lemma drain_cutShort : ∃ s₁, directory.members.drain cutShort =
    (.error (.within Operation.listMembersContinue (.network .timeout)), s₁) := by
  have hrefuses : Catalog.members.Refuses directory
      (Page.tokenAfter .start [(⟨"c", true, []⟩ : PageBody Member).page .unreported])
      (cutShort.transport.answer? 1) (.within Operation.listMembersContinue (.network .timeout)) :=
    .rejected (.transport .timeout)
  obtain ⟨s₁, hd, -⟩ := Catalog.drains_of_refuses (supplies _) chain_cutShort hrefuses
  have hdrain := Catalog.drain_of_drains hd
  exact ⟨s₁, hdrain⟩

/-- A listing of the roles for which the second page fails. -/
lemma perform_cutShort :
    (connector.perform (.list .role none .start) cutShort).1 =
      .error (.within Operation.listMembersContinue (.network .timeout)) := by
  have hp : connector.perform (.list .role none .start) =
      Reply.resources <$> Roles.list directory none .start := rfl
  obtain ⟨s₁, hd⟩ := drain_cutShort
  have hl : Roles.list directory none .start cutShort =
      (.error (.within Operation.listMembersContinue (.network .timeout)), s₁) := by
    rw [Roles.list]
    exact Step.bind_of_error hd _
  rw [hp, Step.map_apply, hl]
  rfl

/-- A session in which a removal is answered with an empty object. -/
def silent : Session := session [.response 200 [] (Utf8.ofString "\x7b\x7d")]

lemma upshot_silent : client.upshot silent 0 =
    .ok (some (.response 200 [] (Utf8.ofString "\x7b\x7d"))) := by
  rw [Client.upshot, (supplies silent 0).1, sendable_of_legal isHeaderValue_bearer]
  rfl

end Sample

open Sample in
theorem Connector.failures_name_operation_cutShort :
    (∀ i e, connector.directory.client.tokenAt cutShort i = .error e → e.operations = []) ∧
      ∃ e, (connector.perform (.list .role none .start) cutShort).1 = .error e ∧ e.IsUpstream ∧
        e.operations = [Operation.listMembersContinue.label] ∧ e.root = .network .timeout := by
  have htokens (i : ℕ) (e : Error)
      (h : connector.directory.client.tokenAt cutShort i = .error e) : e.operations = [] := by
    have hheld : client.tokenAt cutShort i = .ok "sl.token" := (supplies cutShort i).1
    cases hheld.symm.trans h
  have hup : (Error.within Operation.listMembersContinue (.network .timeout)).IsUpstream := trivial
  obtain ⟨xs, y, -, -, -, hnamed⟩ := failures_name_operation htokens perform_cutShort hup
  rcases hnamed with ⟨he, hops, -⟩ | ⟨hops, -⟩
  · have hop : Operation.listMembersContinue = y.op :=
      Operation.label_injective (Error.within.inj he).1
    exact ⟨htokens, _, perform_cutShort, hup, by rw [hops, hop], rfl⟩
  · cases hops

open Sample in
/-- The end of an account whose removal is answered with an empty object names no operation. -/
theorem Connector.failures_name_operation_silent :
    ∃ e, (connector.perform (.deleteAccount .user ⟨.user, "m:1"⟩) silent).1 = .error e ∧
      e.IsUpstream ∧ e.operations = [] := by
  have hd : removalRecord.decoder.decode (Utf8.ofString "\x7b\x7d") = .ok "" := by decide +kernel
  exact ⟨_, perform_of_mute upshot_silent (.intro rfl hd) "m:1", trivial, rfl⟩

end TeamSync
