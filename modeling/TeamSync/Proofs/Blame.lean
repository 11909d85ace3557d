import TeamSync.Proofs.Trail

/-!
Which operation a failure names. What goes wrong with the token of a call or with its answer is put
under the operation of that call, and nothing that is done before or after adds to it. The one
thing that is found wrong with an answer outside of its call is a removal that says nothing.
-/

namespace TeamSync

open Json

/-! ### What goes wrong upstream -/

namespace Error

/-- What went wrong is a token, the network or an answer. -/
def IsUpstream (e : Error) : Prop :=
  match e.root with
  | .network _ | .authentication _ | .response _ | .api _ => True
  | _ => False

lemma not_isUpstream_argument (cause : ArgumentError) : ¬(argument cause).IsUpstream := id

lemma not_isUpstream_provisioning (cause : ProvisioningError) :
    ¬(provisioning cause).IsUpstream := id

lemma not_isUpstream_pagination (cause : PaginationError) : ¬(pagination cause).IsUpstream := id

/-- An error outside of all operations is its own root. -/
lemma root_of_operations {e : Error} (h : e.operations = []) : e.root = e := by
  cases e with
  | within => cases h
  | _ => rfl

end Error

/-- What is wrong with a body for a decoder. -/
def Json.Decoder.fault? {α : Type} (d : Decoder α) (body : List UInt8) : Option Fault :=
  match d.decode body with
  | .ok _ => none
  | .error f => some f

/-- What is wrong with the body of an answer to an operation. The operations that change a member's
state or what is held do not read it. -/
def Operation.fault? : Operation → List UInt8 → Option Fault
  | .listMembers | .listMembersContinue => PageBody.members.decoder.fault?
  | .listGroups | .listGroupsContinue => PageBody.groups.decoder.fault?
  | .listGroupMembers | .listGroupMembersContinue => PageBody.groupMembers.decoder.fault?
  | .addMember => InviteAnswer.record.decoder.fault?
  | .removeMember => removalRecord.decoder.fault?
  | .suspendMember | .unsuspendMember | .setAdminPermissions | .addGroupMembers
  | .removeGroupMembers => fun _ => none

lemma Catalog.fault?_op (c : Catalog) (pt : PageToken) :
    (c.op pt).fault? = c.record.decoder.fault? := by
  unfold op
  cases c <;> cases pt.phase <;> rfl

namespace Client

variable {α β : Type} {c : Client} {op : Operation} {s u : Session}

/-- What comes of the call with some number, if all calls before it sent their requests: the answer,
or why no request went out. -/
def upshot (c : Client) (s : Session) (i : ℕ) : Except Error (Option Answer) :=
  (sendable (c.tokenAt s i)).map fun _ => s.transport.answer? i

lemma upshot_alike (c : Client) (h : s.Alike u) (i : ℕ) : c.upshot s i = c.upshot u i := by
  rw [upshot, upshot, c.tokenAt_congr h.source, h.transport]

lemma visit_fst {body : Value} (f : Except Error (Option Answer) → Except Error α × List Event)
    (s : Session) : (c.visit op body f s).1 = (f (c.upshot s 0)).1 := by
  rw [upshot, tokenAt, Transport.answer?_zero]
  rcases h : sendable (c.token s).1 with e | t
  · rw [visit_of_error h]
    rfl
  · rw [visit_of_ok h]
    rfl

/-- Why a call to an operation fails: its token, an answer that is no success, or a body that cannot
be read. -/
inductive Fails (c : Client) (op : Operation) : Except Error (Option Answer) → Error → Prop where
  | token (e : Error) : Fails c op (.error e) e
  | rejected {a : Option Answer} {e : Error} (h : c.Rejects op a e) : Fails c op (.ok a) e
  | undecodable {status : ℕ} {headers : List (String × String)} {body : List UInt8}
      {arrival : Arrival} {f : Fault} (hs : Http.isSuccess status = true)
      (hf : op.fault? body = some f) :
      Fails c op (.ok (some (.response status headers body arrival)))
        (.response (.deserialization f.message))

/-- A removal that succeeds and says nothing, and what is made of that. -/
inductive Mute : Operation → Except Error (Option Answer) → Error → Prop where
  | intro {status : ℕ} {headers : List (String × String)} {body : List UInt8}
      {arrival : Arrival} (hs : Http.isSuccess status = true)
      (hd : removalRecord.decoder.decode body = .ok "") :
      Mute .removeMember (.ok (some (.response status headers body arrival)))
        (.response (.unexpected "empty response from remove member"))

/-- An error is why a call failed, under the operation of that call, or it is a mute removal. -/
def Names (c : Client) (op : Operation) (r : Except Error (Option Answer)) (e : Error) : Prop :=
  (∃ e', e = .within op e' ∧ c.Fails op r e') ∨ Mute op r e

/-- When a step fails upstream, it has made some calls, in this order to certain operations, of
which all but the last sent their requests, and the error names the last. -/
def Blames (c : Client) (callee? : ℕ → Option Operation) (x : Step α) : Prop :=
  ∀ s e, (x s).1 = .error e → e.IsUpstream →
    ∃ xs y, callee? xs.length = some (Call.op y) ∧
      (∀ i < xs.length, ∃ t, sendable (c.tokenAt s i) = .ok t) ∧
      (x s).2.Alike (c.makeAll s (xs ++ [y])) ∧ c.Names y.op (c.upshot s xs.length) e

end Client

/-! ### Steps that make no call -/

namespace Step

variable {α β : Type}

/-- A step that makes no call: it does nothing to the session but to its log, and does not fail
upstream. -/
structure Quiet (x : Step α) : Prop where
  session : ∀ s, (x s).2.Alike s
  failure : ∀ s e, (x s).1 = .error e → ¬e.IsUpstream

lemma quiet_pure (a : α) : Quiet (pure a : Step α) := ⟨fun _ => .refl _, by simp⟩

lemma quiet_fail {e : Error} (h : ¬e.IsUpstream) : Quiet (fail e : Step α) :=
  ⟨fun _ => .refl _, by simp [h]⟩

lemma quiet_ofExcept {r : Except Error α} (h : ∀ e, r = .error e → ¬e.IsUpstream) :
    Quiet (ofExcept r) := by
  refine ⟨fun s => ?_, fun s e he => h e (by simpa using he)⟩
  rw [ofExcept_apply]

lemma quiet_log (level : Level) (message : String) (fields : List (String × LogField)) :
    Quiet (log level message fields) := ⟨fun _ => ⟨rfl, rfl, rfl⟩, by simp⟩

lemma Quiet.bind {x : Step α} {f : α → Step β} (hx : x.Quiet) (hf : ∀ a, (f a).Quiet) :
    (x >>= f).Quiet := by
  constructor <;> intro s
  · have hs := hx.session s
    rcases h : x s with ⟨e | a, s₁⟩ <;> rw [h] at hs
    · rw [bind_of_error h]
      exact hs
    · rw [bind_of_ok h]
      exact ((hf a).session s₁).trans hs
  · rcases h : x s with ⟨e | a, s₁⟩
    · rw [bind_of_error h]
      rintro _ ⟨⟩
      exact hx.failure s e (by rw [h])
    · rw [bind_of_ok h]
      exact (hf a).failure s₁

/-- A check of an argument makes no call. -/
lemma quiet_of_checks {r : Except Error α} {p : Prop} (h : Checks r p) : Quiet (ofExcept r) := by
  rcases h with ⟨-, a, rfl⟩ | ⟨-, cause, rfl⟩
  · exact quiet_pure a
  · exact quiet_fail (Error.not_isUpstream_argument cause)

end Step

/-! ### Steps around a call -/

namespace Client.Blames

open Step

variable {α β : Type} {c : Client} {callee? : ℕ → Option Operation} {x : Step α}

lemma of_quiet (h : x.Quiet) : c.Blames callee? x := fun s e he hup =>
  absurd hup (h.failure s e he)

/-- What follows a step without a call is blamed as it is. -/
lemma quiet_bind {f : α → Step β} (hx : x.Quiet) (hf : ∀ a, c.Blames callee? (f a)) :
    c.Blames callee? (x >>= f) := by
  intro s e he hup
  have hs := hx.session s
  rcases h : x s with ⟨e' | a, s₁⟩
  · rw [bind_of_error h] at he
    cases he
    exact absurd hup (hx.failure s e (by rw [h]))
  · rw [bind_of_ok h] at he ⊢
    rw [h] at hs
    obtain ⟨xs, y, hcallee, htokens, hsession, hnames⟩ := hf a s₁ e he hup
    refine ⟨xs, y, hcallee, fun i hi => ?_, hsession.trans (Client.makeAll_alike hs _), ?_⟩
    · rw [← c.tokenAt_congr hs.source]
      exact htokens i hi
    · rw [← c.upshot_alike hs]
      exact hnames

/-- A step that has the result of another, but for failures that it clears, is blamed as the
other. -/
lemma of_error {x' : Step β} (hx : c.Blames callee? x)
    (he : ∀ s e, (x' s).1 = .error e → e.IsUpstream → (x s).1 = .error e)
    (hs : ∀ s, (x' s).2.Alike (x s).2) : c.Blames callee? x' := by
  intro s e h hup
  obtain ⟨xs, y, hcallee, htokens, hsession, hnames⟩ := hx s e (he s e h hup) hup
  exact ⟨xs, y, hcallee, htokens, (hs s).trans hsession, hnames⟩

lemma bind_quiet {f : α → Step β} (hx : c.Blames callee? x) (hf : ∀ a, (f a).Quiet) :
    c.Blames callee? (x >>= f) := by
  refine hx.of_error (fun s e he hup => ?_) fun s => ?_
  · rcases h : x s with ⟨e' | a, s₁⟩
    · rw [bind_of_error h] at he
      exact congrArg _ (Except.error.inj he)
    · rw [bind_of_ok h] at he
      exact absurd hup ((hf a).failure s₁ e he)
  · rcases h : x s with ⟨e' | a, s₁⟩
    · rw [bind_of_error h]
    · rw [bind_of_ok h]
      exact (hf a).session s₁

lemma map (hx : c.Blames callee? x) (f : α → β) : c.Blames callee? (f <$> x) :=
  hx.bind_quiet fun a => quiet_pure (f a)

lemma rescue_log (hx : c.Blames callee? x) (level : Level) (message : String)
    (fields : Error → List (String × LogField)) :
    c.Blames callee? (x.rescue fun e => do Step.log level message (fields e); Step.fail e) := by
  refine hx.of_error (fun s e he _ => ?_) fun s => ?_ <;> rw [rescue_log_apply] at *
  · rcases h : x s with ⟨e' | a, s₁⟩ <;> rw [h] at he
    · exact he
    · cases he
  · rcases h : x s with ⟨e' | a, s₁⟩
    · exact ⟨rfl, rfl, rfl⟩
    · exact .refl _

end Client.Blames

/-! ### Single calls -/

/-- The operations of a single call. -/
def Operation.once (op : Operation) (i : ℕ) : Option Operation := if i = 0 then some op else none

namespace Client

variable {α : Type} {c : Client} {op : Operation} {body : Value}

/-- A visit is blamed for what is made of it. -/
lemma blames_visit {f : Except Error (Option Answer) → Except Error α × List Event}
    (h : ∀ r e, (f r).1 = .error e → c.Names op r e) :
    c.Blames op.once (c.visit op body f) := by
  intro s e he _
  rw [visit_fst] at he
  exact ⟨[], ⟨op, body⟩, rfl, by simp, visit_alike_make f s, h _ e he⟩

lemma names_read {d : Decoder α} (hd : op.fault? = d.fault?) {a : Option Answer} {e : Error}
    (h : c.read d op a = .error e) : c.Names op (.ok a) e := by
  rcases c.success_or_rejects op a with ⟨status, headers, b, arrival, rfl, hs⟩ | ⟨e', he⟩
  · rw [read, c.receive_of_success op headers b arrival hs] at h
    rcases hdec : d.decode b with f | v
    · obtain rfl : Error.within op (.response (.deserialization f.message)) = e := by
        simpa [hdec] using h
      exact .inl ⟨_, rfl, .undecodable hs (by rw [hd, Decoder.fault?, hdec])⟩
    · simp [hdec] at h
  · obtain rfl : Error.within op e' = e := by simpa [read, receive_of_rejects he] using h
    exact .inl ⟨_, rfl, .rejected he⟩

lemma read_ok {d : Decoder α} {a : Option Answer} {v : Answered α} (h : c.read d op a = .ok v) :
    ∃ status headers b arrival, a = some (.response status headers b arrival) ∧
      Http.isSuccess status = true ∧ d.decode b = .ok v.value := by
  rcases c.success_or_rejects op a with ⟨status, headers, b, arrival, rfl, hs⟩ | ⟨e, he⟩
  · rw [read, c.receive_of_success op headers b arrival hs] at h
    rcases hdec : d.decode b with f | u
    · simp [hdec] at h
    · simp only [hdec] at h
      cases h
      exact ⟨status, headers, b, arrival, rfl, hs, hdec⟩
  · simp [read, receive_of_rejects he] at h

lemma blames_call {d : Decoder α} (hd : op.fault? = d.fault?) :
    c.Blames op.once (c.call d op (some body)) := by
  rw [call_eq, roundTrip_eq_visit]
  refine blames_visit fun r e he => ?_
  rcases r with e' | a
  · obtain rfl : Error.within op e' = e := by simpa [reading] using he
    exact .inl ⟨e', rfl, .token e'⟩
  · exact names_read hd he

lemma blames_callDiscard : c.Blames op.once (c.callDiscard op (some body)) := by
  rw [callDiscard_eq, roundTrip_eq_visit]
  refine blames_visit fun r e he => ?_
  rcases r with e' | a
  · obtain rfl : Error.within op e' = e := by simpa [reading] using he
    exact .inl ⟨e', rfl, .token e'⟩
  rcases c.success_or_rejects op a with ⟨status, headers, b, arrival, rfl, hs⟩ | ⟨e', hrej⟩
  · simp [reading, accept, c.receive_of_success op headers b arrival hs] at he
  · obtain rfl : Error.within op e' = e := by
      simpa [reading, accept, receive_of_rejects hrej] using he
    exact .inl ⟨_, rfl, .rejected hrej⟩

end Client

/-! ### The calls of a directory -/

namespace Directory

variable (d : Directory)

/-- Of a mutation's failures those that are absorbed are no more. -/
lemma blames_mutate (kind : MutationKind) (op : Operation) (body : Value) :
    d.client.Blames op.once (d.mutate kind op body) := by
  rw [mutate, Step.attempt_bind_eq_finish _ (settle_eq_blind kind d.allowed)]
  have hcall : d.client.Blames op.once (d.client.callDiscard op (some body)) :=
    Client.blames_callDiscard
  refine hcall.of_error (fun s e he _ => ?_) fun s => ⟨rfl, rfl, rfl⟩
  rw [Step.finish] at he
  rcases hr : (d.client.callDiscard op (some body) s).1 with e' | l
  · rw [hr] at he
    simp only [settling] at he
    split_ifs at he
    exact congrArg _ (Except.error.inj he)
  · rw [hr] at he
    cases he

lemma blames_invite (email : String) :
    d.client.Blames Operation.addMember.once (d.invite email) :=
  Client.blames_call rfl

/-- The answer to a removal has to have a tag. -/
def checkRemoval (a : Answered String) : Except Error (Answered String) :=
  if a.value = "" then .error (.response (.unexpected "empty response from remove member"))
  else .ok a

/-- A removal is a visit, whose answer is read and then checked. -/
lemma remove_eq_visit (member : String) :
    ∃ f, d.remove member = d.client.visit .removeMember (memberBody member) f ∧
      (∀ e, (f (.error e)).1 = .error (.within Operation.removeMember e)) ∧
      ∀ a, (f (.ok a)).1 =
        d.client.read removalRecord.decoder .removeMember a >>= checkRemoval := by
  have hcheck (a : Answered String) :
      (if a.value = "" then Step.fail (.response (.unexpected "empty response from remove member"))
        else pure a) = Step.blind (checkRemoval a) [] := by
    unfold checkRemoval
    split_ifs
    · exact Step.fail_eq_blind _
    · exact Step.pure_eq_blind a
  rw [remove, Client.call_eq, Client.roundTrip_eq_visit,
    Step.bind_eq_finish _ (g := fun a => (checkRemoval a, [])) hcheck, Client.visit_finish]
  refine ⟨_, rfl, fun e => rfl, fun a => ?_⟩
  simp only [Client.reading]
  rcases d.client.read removalRecord.decoder .removeMember a with e | v <;> rfl

lemma blames_remove (member : String) :
    d.client.Blames Operation.removeMember.once (d.remove member) := by
  obtain ⟨f, hf, herror, hok⟩ := d.remove_eq_visit member
  rw [hf]
  refine Client.blames_visit fun r e he => ?_
  rcases r with e' | a
  · rw [herror] at he
    cases he
    exact .inl ⟨e', rfl, .token e'⟩
  rw [hok] at he
  rcases hread : d.client.read removalRecord.decoder .removeMember a with e' | v <;>
    rw [hread] at he
  · cases he
    exact Client.names_read rfl hread
  · obtain ⟨status, headers, b, arrival, rfl, hs, hd⟩ := Client.read_ok hread
    have hcheck : checkRemoval v = .error e := he
    unfold checkRemoval at hcheck
    split_ifs at hcheck with hv
    cases hcheck
    rw [hv] at hd
    exact .inr (.intro hs hd)

/-- A removal that succeeds and says nothing fails for that. -/
lemma remove_of_mute (member : String) {s : Session} {r : Except Error (Option Answer)} {e : Error}
    (hr : d.client.upshot s 0 = r) (h : Client.Mute .removeMember r e) :
    (d.remove member s).1 = .error e := by
  obtain ⟨f, hf, -, hok⟩ := d.remove_eq_visit member
  rw [hf, Client.visit_fst, hr]
  cases h with
  | @intro status headers body arrival hs hd =>
    rw [hok, Client.read, d.client.receive_of_success _ headers body arrival hs]
    simp only [hd]
    rfl

end Directory

/-! ### Drains -/

/-- The operations of a listing that is gone through. -/
def Listing.through (l : Listing) (i : ℕ) : Option Operation :=
  some (.list l (if i = 0 then .start else .continuing))

namespace Catalog

variable {d : Directory} {c : Catalog} {pt : PageToken} {s s₁ : Session}

lemma names_fetch {e : Error} (h : ((c.pages d).fetch pt s).1 = .error e) (hup : e.IsUpstream) :
    d.client.Names (c.op pt) (d.client.upshot s 0) e := by
  rw [fetch_eq, Client.roundTrip_eq_visit, Client.visit_fst] at h
  rcases hu : d.client.upshot s 0 with e' | a <;> rw [hu] at h
  · obtain rfl : Error.within (c.op pt) e' = e := by simpa [Client.reading] using h
    exact .inl ⟨e', rfl, .token e'⟩
  · have hread : c.read d pt a = .error e := h
    rw [read_error_iff] at hread
    cases hread with
    | rejected hrej => exact .inl ⟨_, rfl, .rejected hrej⟩
    | undecodable hs hd =>
      exact .inl ⟨_, rfl, .undecodable hs (by rw [fault?_op, Decoder.fault?, hd])⟩
    | noCursor => exact absurd hup (Error.not_isUpstream_pagination _)

/-- The call for the page after some others is the last of the calls for them all. -/
lemma calls_eq_append (d : Directory) (c : Catalog) (pt : PageToken) (ps : List (Page c.Item)) :
    ∃ xs, xs.length = ps.length ∧
      c.calls d pt ps = xs ++ [c.call d (Page.tokenAfter pt ps)] := by
  induction ps generalizing pt with
  | nil => exact ⟨[], rfl, rfl⟩
  | cons p ps ih =>
    obtain ⟨xs, hlen, hxs⟩ := ih p.nextToken
    refine ⟨c.call d pt :: xs, by simp [hlen], ?_⟩
    rw [Page.tokenAfter_cons, List.cons_append, ← hxs]
    rfl

/-- A page that others lead to is got by carrying on. -/
lemma Chain.op_tokenAfter {t : Transport} {ps : List (Page c.Item)} (h : Chain d c t ps) :
    c.listing.through ps.length = some (c.op (Page.tokenAfter .start ps)) := by
  rcases List.eq_nil_or_concat ps with rfl | ⟨qs, p, rfl⟩
  · simp [Listing.through, op, PageToken.phase]
  · obtain ⟨_, -, -, hlead⟩ := h qs.length p (by simp)
    have hlast : Page.tokenAfter .start (qs.concat p) = p.nextToken := by
      simp [Page.tokenAfter]
    have hphase : p.nextToken.phase = .continuing := by
      simp [PageToken.phase, hlead.isStart_nextToken]
    rw [hlast, op, hphase]
    simp [Listing.through]

/-- A loop that fails upstream has met some pages that lead on, and then its last page failed. -/
lemma Drains.halts {before : List c.Item} {n : ℕ} {r : Except Error (Drained c.Item)}
    (h : (c.pages d).Drains pt before n s r s₁) {e : Error} (he : r = .error e)
    (hup : e.IsUpstream) :
    ∃ ps, Chain d c s.transport ps ∧
      (∀ i < ps.length, ∃ t, sendable (d.client.tokenAt s i) = .ok t) ∧
      s₁.Alike (d.client.makeAll s (c.calls d pt ps)) ∧
      d.client.Names (c.op (Page.tokenAfter pt ps)) (d.client.upshot s ps.length) e := by
  induction h with
  | @failed pt _ _ s _ _ hf =>
    cases he
    have hsession := fetch_alike_make (d := d) (c := c) pt s
    rw [hf] at hsession
    exact ⟨[], chain_nil _, by simp, hsession, names_fetch (congrArg Prod.fst hf) hup⟩
  | last => cases he
  | @more pt _ _ s s₂ _ p _ hf hm hd ih =>
    obtain ⟨ps, hchain, htokens, hsession, hnames⟩ := ih he
    obtain ⟨⟨t, ht⟩, hcons, hat, hans⟩ := fetch_more hf hm
    refine ⟨p :: ps, hcons hchain, fun i hi => ?_, ?_, ?_⟩
    · rcases i with _ | i
      · exact ⟨t, ht⟩
      · rw [← hat]
        exact htokens i (by simpa using hi)
    · have hfirst := fetch_alike_make (d := d) (c := c) pt s
      rw [hf] at hfirst
      exact hsession.trans (Client.makeAll_alike hfirst (c.calls d p.nextToken ps))
    · rw [Client.upshot, hat, hans] at hnames
      exact hnames

lemma blames_fetch (d : Directory) (c : Catalog) (pt : PageToken) :
    d.client.Blames (c.op pt).once ((c.pages d).fetch pt) := fun s _ he hup =>
  ⟨[], c.call d pt, rfl, by simp, fetch_alike_make pt s, names_fetch he hup⟩

lemma blames_drain (d : Directory) (c : Catalog) :
    d.client.Blames c.listing.through (c.pages d).drain := by
  intro s e he hup
  have hloop :
      (c.pages d).Drains .start [] 0 s ((c.pages d).drain s).1 ((c.pages d).drain s).2 := by
    have hrun : (c.pages d).drainFrom s.supply .start [] 0 s =
        (((c.pages d).drain s).1, ((c.pages d).drain s).2) := rfl
    refine Paged.drains_of_drainFrom hrun fun hendless => ?_
    have hpag : e = .pagination (.endless (c.pages d).listing.name) :=
      Except.error.inj (he.symm.trans hendless)
    exact Error.not_isUpstream_pagination _ (hpag ▸ hup)
  obtain ⟨ps, hchain, htokens, hsession, hnames⟩ := Drains.halts hloop he hup
  obtain ⟨xs, hlen, hxs⟩ := calls_eq_append d c .start ps
  rw [hxs] at hsession
  rw [← hlen] at htokens hnames
  refine ⟨xs, _, ?_, htokens, hsession, hnames⟩
  rw [hlen]
  exact hchain.op_tokenAfter

end Catalog

end TeamSync
