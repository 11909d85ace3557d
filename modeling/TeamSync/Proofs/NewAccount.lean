import Mathlib.Data.List.DropRight
import TeamSync.Proofs.CallOutcome
import TeamSync.Proofs.Json.Objects
import TeamSync.Proofs.Manner
import TeamSync.Proofs.Numerals

/-!
The making of an account, from the attributes that a host has for it to the resource that it gets.
The address is a string without the blanks around it, and it is invited once. Only an answer whose
first record says that this went through, and has the profile of the new member, makes an account;
every other answer is an error that tells what it was.
-/

namespace TeamSync

open Json

/-! ### Addresses -/

namespace Text

/-- What is left of a string without the blanks around it: it neither begins nor ends with a blank,
and nothing but blanks is gone. -/
def Strips (s t : String) : Prop :=
  (∃ before after, s.toList = before ++ t.toList ++ after ∧
    ∀ c ∈ before ++ after, isBlank c = true) ∧
  (∀ c ∈ t.toList.head?, isBlank c = false) ∧ ∀ c ∈ t.toList.getLast?, isBlank c = false

variable {cs : List Char} {s t : String}

lemma getLast?_trimChars {c : Char} (h : c ∈ (trimChars cs).getLast?) : isBlank c = false := by
  have hlast := List.head?_dropWhile_not isBlank (cs.dropWhile isBlank).reverse
  rw [trimChars, dropEndWhile, List.getLast?_reverse] at h
  rwa [Option.mem_def.mp h] at hlast

lemma head?_trimChars {c : Char} (h : c ∈ (trimChars cs).head?) : isBlank c = false := by
  have hfirst := List.head?_dropWhile_not isBlank cs
  -- only something at the end is gone of what is left when the blanks in front are
  obtain ⟨after, hafter⟩ : trimChars cs <+: cs.dropWhile isBlank := List.rdropWhile_prefix ..
  have hhead : (cs.dropWhile isBlank).head? = some c := by
    rw [← hafter]
    exact List.mem_head?_append_of_mem_head? h
  rwa [hhead] at hfirst

lemma strips_iff : Strips s t ↔ trim s = t := by
  constructor
  · rintro ⟨⟨before, after, hs, hblank⟩, hfirst, hlast⟩
    rw [trim, hs, trimChars_append hblank hfirst hlast, String.ofList_toList]
  · rintro rfl
    rw [Strips, trim, String.toList_ofList]
    exact ⟨trimChars_split _, fun _ => head?_trimChars, fun _ => getLast?_trimChars⟩

end Text

/-! ### Answers -/

/-- A success of the service with a body that is read, and its rate limit. -/
def Client.Yields {α : Type} (c : Client) (d : Decoder α) (a : Option Answer) (v : Answered α) :
    Prop :=
  ∃ status headers body arrival, a = some (.response status headers body arrival) ∧
    (200 ≤ status ∧ status ≤ 299) ∧ d.decode body = .ok v.value ∧
    v.rateLimit = .ofResponse status (.ofList headers) (arrival.instant c.now)

namespace InviteAnswer

variable {a : InviteAnswer} {p : Profile} {t : String}

lemma newMember_ok_iff : a.newMember = .ok p ↔
    ∃ i, a.complete.head? = some i ∧ i.tag = "success" ∧ i.profile = some p := by
  rcases hc : a.complete with _ | ⟨⟨tag, _ | q⟩, is⟩
  · simp [newMember, hc]
  all_goals by_cases ht : tag = "success" <;> simp [newMember, hc, ht, successTag]

lemma notCompleted_iff : a.newMember = .error (.provisioning (.notCompleted t)) ↔
    ∃ i, a.complete.head? = some i ∧ i.tag = t ∧ i.tag ≠ "success" := by
  rcases hc : a.complete with _ | ⟨⟨tag, _ | q⟩, is⟩
  · simp [newMember, hc]
  all_goals by_cases ht : tag = "success" <;> simp [newMember, hc, ht, successTag]

lemma emptyCompletion_iff : a.newMember = .error (.provisioning .emptyCompletion) ↔
    a.complete = [] ∨ ∃ i, a.complete.head? = some i ∧ i.tag = "success" ∧ i.profile = none := by
  rcases hc : a.complete with _ | ⟨⟨tag, _ | q⟩, is⟩
  · simp [newMember, hc]
  all_goals by_cases ht : tag = "success" <;> simp [newMember, hc, ht, successTag]

end InviteAnswer

/-! ### Answers as they are written -/

namespace Invited

variable {es : Written} {i : Invited} {depth : ℕ}

lemma nodup_record : (record.fields.map (·.name)).Nodup := by
  simp [record, Field.defaulted]

lemma slot_tag : record.Slot ".tag" Decoder.string Invited.tag :=
  Record.slot_of_mem nodup_record List.mem_cons_self (fun _ _ => rfl)
    (by simp [record, Field.defaulted, Field.leaves_make])

lemma slot_profile : record.Slot "profile" Profile.record.decoder.nullable Invited.profile :=
  Record.slot_of_mem nodup_record (List.mem_cons_of_mem _ List.mem_cons_self) (fun _ _ => rfl)
    (by simp [record, Field.defaulted, Field.leaves_make])

/-- A tag that is not empty is the one that is written. -/
lemma says_tag (hs : skimMembers es = .ok ())
    (h : record.decoder (depth + 1) (.object es .closed) = .ok i) (ht : i.tag ≠ "") :
    es.Says ".tag" i.tag := by
  refine Record.says_of_mem_keys nodup_record hs slot_tag h ?_
  by_contra hkey
  exact ht ((Record.slot_of_decoder nodup_record hs slot_tag h).2 hkey)

/-- A profile is the one that is written. -/
lemma has_profile (hs : skimMembers es = .ok ())
    (h : record.decoder (depth + 1) (.object es .closed) = .ok i) {p : Profile}
    (hp : i.profile = some p) :
    ∃ n, es.Has "profile" n ∧ Profile.record.decoder depth n = .ok p := by
  obtain ⟨hhas, hno⟩ := Record.slot_of_decoder nodup_record hs slot_profile h
  have hkey : "profile" ∈ es.keys := by
    by_contra hkey
    rw [hno hkey] at hp
    cases hp
  obtain ⟨n, hn⟩ := Written.exists_has hkey
  rcases Decoder.nullable_eq_ok_iff.mp (hhas n hn) with ⟨-, hnone⟩ | ⟨-, q, hq, hsome⟩
  · rw [hnone] at hp
    cases hp
  · rw [hsome] at hp
    cases hp
    exact ⟨n, hn, hq⟩

end Invited

namespace InviteAnswer

variable {ms : Written} {body : List UInt8} {a : InviteAnswer}

lemma nodup_record : (record.fields.map (·.name)).Nodup := by
  simp [record, Field.defaulted]

lemma slot_complete :
    record.Slot "complete" Invited.record.decoder.list InviteAnswer.complete :=
  Record.slot_of_mem nodup_record (List.mem_cons_of_mem _ List.mem_cons_self) (fun _ _ => rfl)
    (by simp [record, Field.defaulted, Field.leaves_make])

/-- An answer without a list of records, as it comes if the invitation is still to go through, has
none. -/
lemma complete_of_not_mem (hb : IsObject body ms) (hd : record.decoder.decode body = .ok a)
    (hno : "complete" ∉ ms.keys) : a.complete = [] :=
  (Record.slot_of_decoder nodup_record hb.skim slot_complete
    ((hb.decode_eq record.decoder).symm.trans hd)).2 hno

/-- The first record is the first that is written. -/
lemma head_of_has (hb : IsObject body ms) (hd : record.decoder.decode body = .ok a)
    {es : Written} {ns : List Node}
    (hn : ms.Has "complete" (.array (.object es .closed :: ns) .closed)) :
    skimMembers es = .ok () ∧
      ∃ i, Invited.record.decoder 125 (.object es .closed) = .ok i ∧ a.complete.head? = some i := by
  have hlist := (Record.slot_of_decoder nodup_record hb.skim slot_complete
    ((hb.decode_eq record.decoder).symm.trans hd)).1 _ hn
  obtain ⟨i, is, hi, -, hcomplete⟩ :=
    List.forall₂_cons_left_iff.mp (Decoder.list_eq_ok_iff.mp hlist)
  have hskim : (Node.object es .closed).skim = .ok () :=
    (skim_array_iff.mp (skim_of_has hb.skim hn)).2 _ List.mem_cons_self
  exact ⟨(skim_object_iff.mp hskim).2, i, hi, by rw [hcomplete, List.head?_cons]⟩

/-- What an account is made from is all written in the first record. -/
lemma says_of_newMember (hb : IsObject body ms) (hd : record.decoder.decode body = .ok a)
    {es : Written} {ns : List Node}
    (hn : ms.Has "complete" (.array (.object es .closed :: ns) .closed)) {p : Profile}
    (h : a.newMember = .ok p) :
    es.Says ".tag" "success" ∧ ∃ n, es.Has "profile" n ∧
      ∀ ps : Written, n = .object ps .closed → ps.Says "team_member_id" p.memberId := by
  obtain ⟨hskim, i, hi, hhead⟩ := head_of_has hb hd hn
  obtain ⟨j, hj, ht, hp⟩ := newMember_ok_iff.mp h
  obtain rfl : i = j := Option.some.inj (hhead.symm.trans hj)
  obtain ⟨n, hprofile, hread⟩ := Invited.has_profile hskim hi hp
  refine ⟨ht ▸ Invited.says_tag hskim hi (by simp [ht]), n, hprofile, ?_⟩
  rintro ps rfl
  exact Profile.says_memberId (skim_object_iff.mp (skim_of_has hskim hprofile)).2 hread

end InviteAnswer

/-! ### Accounts -/

/-- What becomes of an invitation, by what came of the request for it. -/
structure Client.Settles (c : Client) (a : Option Answer) (r : Except Error Reply) : Prop where
  created : ∀ reply, r = .ok reply ↔ ∃ v i p, c.Yields InviteAnswer.record.decoder a v ∧
    v.value.complete.head? = some i ∧ i.tag = "success" ∧ i.profile = some p ∧
    reply = .account ⟨Users.resource p none, [.rateLimit v.rateLimit]⟩
  notCompleted : ∀ t, r = .error (.provisioning (.notCompleted t)) ↔
    ∃ v i, c.Yields InviteAnswer.record.decoder a v ∧ v.value.complete.head? = some i ∧
      i.tag = t ∧ i.tag ≠ "success"
  empty : r = .error (.provisioning .emptyCompletion) ↔
    ∃ v, c.Yields InviteAnswer.record.decoder a v ∧ (v.value.complete = [] ∨
      ∃ i, v.value.complete.head? = some i ∧ i.tag = "success" ∧ i.profile = none)
  /-- Where nothing is read, it fails as the call does. -/
  failed : (∀ v, ¬c.Yields InviteAnswer.record.decoder a v) →
    ∃ e, r = .error (.within Operation.addMember e) ∧
      c.Answers InviteAnswer.record.decoder .addMember a (.error (.within Operation.addMember e))
  /-- Where there is a list of records, and the first of them is written as an object, that object
  says all that an account is made from. -/
  written : ∀ status headers body arrival (ms es : Written) (ns : List Node),
    a = some (.response status headers body arrival) → IsObject body ms →
    ms.Has "complete" (.array (.object es .closed :: ns) .closed) →
    ∀ account, r = .ok (.account account) → es.Says ".tag" "success" ∧
      ∃ n, es.Has "profile" n ∧ ∀ ps : Written, n = .object ps .closed →
        ps.Says "team_member_id" account.resource.id.id
  /-- Where there is none, the invitation is still to go through. -/
  pending : ∀ status headers body arrival (ms : Written) v,
    a = some (.response status headers body arrival) →
    IsObject body ms → "complete" ∉ ms.keys → c.Yields InviteAnswer.record.decoder a v →
    r = .error (.provisioning .emptyCompletion)

namespace Users

/-- What a host gets of an answer to an invitation. -/
def accountOf (v : Answered InviteAnswer) : Except Error Reply :=
  v.value.newMember.map fun p => .account ⟨resource p none, [.rateLimit v.rateLimit]⟩

variable {v : Answered InviteAnswer}

lemma accountOf_ok_iff {reply : Reply} : accountOf v = .ok reply ↔
    ∃ i p, v.value.complete.head? = some i ∧ i.tag = "success" ∧ i.profile = some p ∧
      reply = .account ⟨resource p none, [.rateLimit v.rateLimit]⟩ := by
  rw [accountOf, map_eq_ok_iff]
  simp only [InviteAnswer.newMember_ok_iff]
  grind

lemma accountOf_error_iff {e : Error} : accountOf v = .error e ↔ v.value.newMember = .error e := by
  rw [accountOf]
  rcases v.value.newMember with e' | p <;> simp [Except.map]

end Users

namespace Client

variable (c : Client)

lemma settles_read (a : Option Answer) :
    c.Settles a (c.read InviteAnswer.record.decoder .addMember a >>= Users.accountOf) := by
  have hanswers : c.Answers InviteAnswer.record.decoder .addMember a
    (c.read InviteAnswer.record.decoder .addMember a) := c.answers_read a
  rcases hr : c.read InviteAnswer.record.decoder .addMember a with e | v <;> rw [hr] at hanswers
  · -- nothing is read
    have hno : ∀ v, ¬c.Yields InviteAnswer.record.decoder a v := fun v hv => by
      cases (hanswers.value v).mpr hv
    obtain ⟨e', rfl, -⟩ := hanswers.named e rfl
    have hbind :
        ((.error (.within Operation.addMember e') : Except Error (Answered InviteAnswer)) >>=
          Users.accountOf) = .error (.within Operation.addMember e') := rfl
    rw [hbind]
    constructor
    case failed => exact fun _ => ⟨e', rfl, hanswers⟩
    case pending => exact fun _ _ _ _ _ v _ _ _ hv => absurd hv (hno v)
    all_goals simp [hno]
  · have hone : ∀ w, c.Yields InviteAnswer.record.decoder a w ↔ w = v := fun w =>
      (hanswers.value w).symm.trans ⟨fun h => (Except.ok.inj h).symm, fun h => h ▸ rfl⟩
    have hbind : ((.ok v : Except Error (Answered InviteAnswer)) >>= Users.accountOf) =
      Users.accountOf v := rfl
    rw [hbind]
    constructor
    case created =>
      intro reply
      simp only [hone, exists_and_left, exists_eq_left, Users.accountOf_ok_iff]
    case notCompleted =>
      intro t
      simp only [hone, exists_and_left, exists_eq_left, Users.accountOf_error_iff,
        InviteAnswer.notCompleted_iff]
    case empty =>
      simp only [hone, exists_eq_left, Users.accountOf_error_iff, InviteAnswer.emptyCompletion_iff]
    case failed => exact fun h => absurd ((hone v).mpr rfl) (h v)
    case written =>
      rintro status headers body arrival ms es ns rfl hb hn account h
      obtain ⟨p, hp, heq⟩ := map_eq_ok_iff.mp h
      obtain ⟨_, _, _, _, ha, -, hd, -⟩ := (hone v).mpr rfl
      cases ha
      cases heq
      exact InviteAnswer.says_of_newMember hb hd hn hp
    case pending =>
      rintro status headers body arrival ms w rfl hb hno hw
      obtain rfl := (hone w).mp hw
      obtain ⟨_, _, _, _, ha, -, hd, -⟩ := hw
      cases ha
      exact Users.accountOf_error_iff.mpr
        (InviteAnswer.emptyCompletion_iff.mpr (.inl (InviteAnswer.complete_of_not_mem hb hd hno)))

end Client

namespace Users

variable {d : Directory} {attributes : Members} {address : String} {s s₁ : Session}

/-- An account is made as the invitation goes. -/
lemma create_apply (he : email? attributes = some address)
    {r : Except Error (Answered InviteAnswer)} (hi : d.invite address s = (r, s₁)) :
    ((create d attributes s).1.map Reply.account) = (r >>= accountOf) ∧
      (create d attributes s).2.transport = s₁.transport := by
  rcases r with e | v
  · have hcreate : create d attributes s = (.error e,
        s₁.noting [⟨.warn, "Failed to create user", [("error", .text e.message)], []⟩]) := by
      simp only [create, he, Step.bind_apply, Step.rescue_log_apply, hi]
    rw [hcreate]
    exact ⟨rfl, rfl⟩
  · have hcreate : create d attributes s = ((welcoming v).1, s₁.noting (welcoming v).2) := by
      simp only [create, he, welcome_eq_blind, Step.bind_apply, Step.rescue_log_apply, hi]
      rfl
    have hreply : (welcoming v).1.map Reply.account = accountOf v := by
      rw [welcoming, accountOf]
      rcases v.value.newMember with e | p <;> rfl
    rw [hcreate]
    exact ⟨hreply, rfl⟩

end Users

namespace Connector

variable {k : Connector} {attributes : Members} {address : String} {s : Session}

/-- A command that invites one address: without a token that can be sent it fails for that and sends
nothing, and with one it sends one request, the answer to which it is settled by. -/
structure Invites (k : Connector) (address : String) (s : Session)
    (x : Except Error Reply × Session) : Prop where
  noToken : ∀ e, (k.directory.client.token s).1 = .error e →
    x.1 = .error (.within Operation.addMember e) ∧ x.2.transport = s.transport
  illegal : ∀ t, (k.directory.client.token s).1 = .ok t → Http.isHeaderValue t = false →
    x.1 = .error (.within Operation.addMember (.authentication .invalidHeaderValue)) ∧
      x.2.transport = s.transport
  sent : ∀ t, (k.directory.client.token s).1 = .ok t → Http.isHeaderValue t = true →
    (∃ body, x.2.transport = s.transport.after
        [⟨"POST", k.directory.client.endpoints.url .addMember,
          [("authorization", "Bearer " ++ t), ("accept", "application/json"),
            ("content-type", "application/json")], some body⟩] ∧
      parse (Utf8.ofString body) =
        .ok (.object [("new_members", .array [.object [("member_email", .string address)]])])) ∧
    k.directory.client.Settles s.transport.next? x.1

lemma perform_createAccount (he : Users.email? attributes = some address)
    {r : Except Error (Answered InviteAnswer)} {s₁ : Session}
    (hi : k.directory.invite address s = (r, s₁)) :
    (k.perform (.createAccount .user attributes) s).1 = (r >>= Users.accountOf) ∧
      (k.perform (.createAccount .user attributes) s).2.transport = s₁.transport := by
  have hp : k.perform (.createAccount .user attributes) s =
      (Reply.account <$> Users.create k.directory attributes) s := rfl
  rw [hp, Step.map_apply]
  exact Users.create_apply he hi

lemma invites_perform (he : Users.email? attributes = some address) (s : Session) :
    k.Invites address s (k.perform (.createAccount .user attributes) s) := by
  have hcall : k.directory.invite address s =
      k.directory.client.roundTrip .addMember (Directory.inviteBody address)
        (k.directory.client.read InviteAnswer.record.decoder .addMember)
        (k.directory.client.readLog InviteAnswer.record.decoder .addMember) s :=
    congrFun (Client.call_eq ..) s
  have hkept := k.directory.client.token_transport s
  refine ⟨fun e ht => ?noToken, fun t ht hl => ?illegal, fun t ht hl => ?sent⟩
  case noToken =>
    rw [Client.roundTrip_of_error _ _ ht] at hcall
    obtain ⟨hresult, htransport⟩ := perform_createAccount he hcall
    exact ⟨hresult, htransport.trans hkept⟩
  case illegal =>
    rw [Client.roundTrip_of_illegal _ _ ht hl] at hcall
    obtain ⟨hresult, htransport⟩ := perform_createAccount he hcall
    exact ⟨hresult, htransport.trans hkept⟩
  case sent =>
    rw [Client.roundTrip_of_legal _ _ ht hl] at hcall
    obtain ⟨hresult, htransport⟩ := perform_createAccount he hcall
    rw [hresult, htransport, Session.spend_transport, hkept]
    exact ⟨⟨_, rfl, Directory.parse_inviteBody address⟩, Client.settles_read _ _⟩

/-- **What becomes of a new account.** Without an address that is a string with something in it but
blanks, the command fails for that, and nothing happens. With one, it is stripped of the blanks
around it and invited. That sends one request, with this one address in its body; and it comes to
the resource of the profile in the first record of the answer, if there is a profile and the record
is a success; to an error that tells the tag of that record, if the record is none; to an error that
tells that nothing was completed, if there is no record, or no profile in it; and to the error of
the call, if there is no answer of this kind. -/
theorem createAccount_outcome (k : Connector) (attributes : Members) (s : Session) :
    ((¬∃ e, attributes.get? "email" = some (.string e) ∧
        ∃ c ∈ e.toList, Text.isBlank c = false) →
      k.perform (.createAccount .user attributes) s =
        (.error (.argument (.missingField "email")), s)) ∧
    ∀ e, attributes.get? "email" = some (.string e) →
      (∃ c ∈ e.toList, Text.isBlank c = false) →
      ∃ address, Text.Strips e address ∧ address ≠ "" ∧
        k.Invites address s (k.perform (.createAccount .user attributes) s) := by
  have hfull (e : String) : (∃ c ∈ e.toList, Text.isBlank c = false) ↔ Text.trim e ≠ "" := by
    rw [ne_eq, ← Text.blank_iff, Text.blank, List.all_eq_true]
    simp
  simp only [hfull]
  constructor
  · intro hno
    have he : Users.email? attributes = none := by
      rw [← Option.not_isSome_iff_eq_none, Users.email?_isSome]
      exact hno
    have hp : k.perform (.createAccount .user attributes) s =
        (Reply.account <$> Users.create k.directory attributes) s := rfl
    rw [hp, Users.create, he]
    rfl
  · intro e hget hne
    refine ⟨Text.trim e, Text.strips_iff.mpr rfl, hne, invites_perform ?_ s⟩
    exact Users.email?_eq_some_iff.mpr ⟨e, hget, rfl, hne⟩

end Connector

/-! ### A sample -/

namespace Sample

/-- An address among blanks, not all of them ASCII. -/
def paddedAttributes : Members := [("email", .string "\u3000 é@h\n")]

/-- An answer that says nothing but that the first invitation went through, and to whom. -/
def joined : Value :=
  .object [("complete", .array [.object [(".tag", .string "success"),
    ("profile", .object [("team_member_id", .string "m:1")])]])]

def joining : Session := session [.response 200 [] (Utf8.ofString joined.toText)]

end Sample

open Sample in
/-- An account is made for the address without the blanks. -/
theorem Connector.createAccount_outcome_padded :
    (∃ c ∈ "\u3000 é@h\n".toList, Text.isBlank c = false) ∧
      connector.directory.client.token joining = (.ok "sl.token", joining) ∧
      Http.isHeaderValue "sl.token" = true ∧
      (∃ body, (connector.perform (.createAccount .user paddedAttributes) joining).2.transport =
          joining.transport.after
            [⟨"POST", "https://api.dropboxapi.com/2/team/members/add_v2",
              [("authorization", "Bearer sl.token"), ("accept", "application/json"),
                ("content-type", "application/json")], some body⟩] ∧
        parse (Utf8.ofString body) =
          .ok (.object [("new_members", .array [.object [("member_email", .string "é@h")]])])) ∧
      ∃ account, (connector.perform (.createAccount .user paddedAttributes) joining).1 =
          .ok (.account account) ∧
        account.resource.id = ⟨.user, "m:1"⟩ := by
  have hfull : ∃ c ∈ "\u3000 é@h\n".toList, Text.isBlank c = false := ⟨'é', by decide, by decide⟩
  have hl : Http.isHeaderValue "sl.token" = true := by decide +kernel
  have ht := token_client joining
  obtain ⟨-, hnamed⟩ := createAccount_outcome connector paddedAttributes joining
  obtain ⟨address, hstrips, -, hinvites⟩ := hnamed _ rfl hfull
  obtain rfl : "é@h" = address := (by decide : Text.trim "\u3000 é@h\n" = "é@h").symm.trans
    (Text.strips_iff.mp hstrips)
  obtain ⟨hsent, hsettles⟩ := hinvites.sent "sl.token" (congrArg Prod.fst ht) hl
  have hdecode : InviteAnswer.record.decoder.decode (Utf8.ofString joined.toText) =
      .ok ⟨"", [⟨"success", some { Profile.empty with memberId := "m:1" }⟩]⟩ := by
    decide +kernel
  refine ⟨hfull, ht, hl, hsent, _, (hsettles.created _).mpr
    ⟨⟨_, _⟩, _, _, ⟨200, [], _, none, rfl, by omega, hdecode, rfl⟩, rfl, rfl, rfl, rfl⟩, rfl⟩

end TeamSync
