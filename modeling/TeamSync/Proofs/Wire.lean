import TeamSync.Proofs.Chain
import TeamSync.Proofs.Json.Objects

/-!
What the service writes is read as what it is: a record that is written with its fields in some
order, a list of such records, and a page of one of the listings. So every string can be an
identifier, and comes back unchanged; and an identifier that is read in a profile was written there.
-/

namespace TeamSync

namespace Json

variable {α β ρ : Type}

@[simp] lemma lift_ok (a : α) : lift (.ok a) = .ok a := rfl

@[simp] lemma ok_bind (a : α) (f : α → Except Fault β) : (.ok a >>= f) = f a := rfl

@[simp] lemma map_ok (f : α → β) (a : α) : (.ok a : Except Fault α).map f = .ok (f a) := rfl

/-! ### Members of a record -/

namespace Record

variable (r : Record ρ) (depth : ℕ) (p : Progress ρ)

@[simp] lemma decoder_object (ms : List (String × Value)) :
    r.decoder (depth + 1) (Value.object ms).node =
      r.readMembers depth ⟨r.empty, []⟩ (memberNodes ms) >>= r.complete := by
  simp only [Value.node, decoder, Decoder.nested]
  rcases r.readMembers depth ⟨r.empty, []⟩ (memberNodes ms) with _ | _ <;> rfl

@[simp] lemma readMembers_nil : r.readMembers depth p (memberNodes []) = .ok p := rfl

@[simp] lemma readMembers_cons (k : String) (v : Value) (ms : List (String × Value)) :
    r.readMembers depth p (memberNodes ((k, v) :: ms)) =
      r.readMember depth p k v.node >>= fun p => r.readMembers depth p (memberNodes ms) := by
  rw [memberNodes, readMembers, StringLiteral.read_ofString]
  rfl

end Record

namespace Field

variable (absence : Absence) (name : String) (d : Decoder α) (set : α → ρ → ρ)

@[simp] lemma read_make (depth : ℕ) (n : Node) :
    (make absence name d set).read depth n = (d depth n).map set := rfl

end Field

/-! ### What a field holds -/

namespace Decoder

@[simp] lemma string_node (depth : ℕ) (s : String) :
    string depth (Value.string s).node = .ok s := by
  simp [string, Value.node]

@[simp] lemma bool_node (depth : ℕ) (b : Bool) : bool depth (Value.bool b).node = .ok b := rfl

@[simp] lemma uint64_node (depth : ℕ) (n : UInt64) : uint64 depth (Value.ofNat n).node = .ok n := by
  have h := n.toNat_lt
  have hn : (0 : Int) ≤ n.toNat ∧ (n.toNat : Int) < 0x10000000000000000 := by omega
  simp [uint64, map, intIn, Value.ofNat, Value.node, Number.literal, NumberLiteral.read_ofInt,
    bind, Except.bind, hn, Except.map]

/-- A list whose entries are read, each as what it stands for. -/
lemma list_map_node {ι : Type} {d : Decoder α} {f : ι → Value} {g : ι → α} {depth : ℕ}
    (h : ∀ i, d depth (f i).node = .ok (g i)) (is : List ι) :
    d.list (depth + 1) (Value.array (is.map f)).node = .ok (is.map g) := by
  have hm : (elementNodes (is.map f)).mapM (d depth) = .ok (is.map g) := by
    induction is with
    | nil => rfl
    | cons i is ih =>
      simp only [List.map_cons, elementNodes, List.mapM_cons, h, ih]
      rfl
  simp only [list, Value.node, nested, hm]
  rfl

/-- A list whose entries are written so that they can be read. -/
lemma list_node {d : Decoder α} {f : α → Value} {depth : ℕ}
    (h : ∀ a, d depth (f a).node = .ok a) (as : List α) :
    d.list (depth + 1) (Value.array (as.map f)).node = .ok as := by
  simpa using list_map_node (g := id) h as

end Decoder

end Json

open Json

/-! ### Records of the service -/

/-- The wire form of a page, with its entries in the member `items`. -/
def PageBody.toJson {α : Type} (items : String) (f : α → Value) (b : PageBody α) : Value :=
  .object [(items, .array (b.items.map f)), ("cursor", .string b.cursor),
    ("has_more", .bool b.hasMore)]

section

-- how a record is read, member by member, once it is known which field each member belongs to
attribute [local simp] Record.readMember Record.refuseTwice Record.complete Field.required
  Field.defaulted

@[simp] lemma tagDecoder_node (depth : ℕ) (t : String) :
    tagDecoder (depth + 1) (tagJson t).node = .ok t := by
  simp [tagDecoder, tagJson, tagRecord]

@[simp] lemma PersonName.decoder_node (depth : ℕ) (n : PersonName) :
    record.decoder (depth + 1) n.toJson.node = .ok n := by
  simp [record, toJson]

@[simp] lemma Profile.decoder_node (depth : ℕ) (p : Profile) :
    record.decoder (depth + 2) p.toJson.node = .ok p := by
  have hg := Decoder.list_node (Decoder.string_node depth) p.groups
  simp [record, toJson, hg]

@[simp] lemma Role.decoder_node (depth : ℕ) (r : Role) :
    record.decoder (depth + 1) r.toJson.node = .ok r := by
  simp [record, toJson]

@[simp] lemma Member.decoder_node (depth : ℕ) (m : Member) :
    record.decoder (depth + 3) m.toJson.node = .ok m := by
  have hr := Decoder.list_node (Role.decoder_node depth) m.roles
  simp [record, toJson, hr]

@[simp] lemma Group.decoder_node (depth : ℕ) (g : Group) :
    record.decoder (depth + 2) g.toJson.node = .ok g := by
  simp [record, toJson]

@[simp] lemma GroupMember.decoder_node (depth : ℕ) (m : GroupMember) :
    record.decoder (depth + 3) m.toJson.node = .ok m := by
  simp [record, toJson]

/-- A page is read back if its entries are. -/
lemma PageBody.decoder_node {α : Type} {name items : String} {d : Decoder α} {f : α → Value}
    {depth : ℕ} (h : ∀ a, d depth (f a).node = .ok a) (hc : items ≠ "cursor")
    (hm : items ≠ "has_more") (b : PageBody α) :
    (record name items d).decoder (depth + 2) (b.toJson items f).node = .ok b := by
  have hl := Decoder.list_node h b.items
  simp [record, toJson, hl, hc.symm, hm.symm]

end

/-! ### Profiles as they are written -/

namespace Profile

variable {ps : Written} {p : Profile} {depth : ℕ}

lemma nodup_record : (record.fields.map (·.name)).Nodup := by
  simp [record, Field.required, Field.defaulted]

lemma slot_memberId : record.Slot "team_member_id" Decoder.string Profile.memberId :=
  Record.slot_of_mem nodup_record (List.mem_cons_of_mem _ List.mem_cons_self) (fun _ _ => rfl)
    (by simp [record, Field.required, Field.defaulted, Field.leaves_make])

/-- A profile that is read says who the member is. -/
lemma says_memberId (hs : skimMembers ps = .ok ())
    (h : record.decoder (depth + 1) (.object ps .closed) = .ok p) :
    ps.Says "team_member_id" p.memberId := by
  have hthere := ((Record.exists_decoder_iff nodup_record hs).mp ⟨p, h⟩).2
  exact Record.says_of_mem_keys nodup_record hs slot_memberId h
    (hthere _ (List.mem_cons_of_mem _ List.mem_cons_self) rfl)

end Profile

/-! ### Numbers of the service -/

namespace Json

/-- The entries of a list hold integers only if each of them does. -/
lemma wholeElements_map {f : α → Value} (h : ∀ a, (f a).whole = true) (as : List α) :
    wholeElements (as.map f) = true := by
  induction as with
  | nil => rfl
  | cons a as ih => simp [wholeElements, h a, ih]

end Json

lemma Profile.whole_toJson (p : Profile) : p.toJson.whole = true := by
  have hg := wholeElements_map (f := .string) (fun _ => rfl) p.groups
  simp [toJson, PersonName.toJson, tagJson, Value.whole, wholeMembers, hg]

lemma Member.whole_toJson (m : Member) : m.toJson.whole = true := by
  have hr := wholeElements_map (f := Role.toJson) (fun _ => rfl) m.roles
  simp [toJson, Value.whole, wholeMembers, m.profile.whole_toJson, hr]

lemma Group.whole_toJson (g : Group) : g.toJson.whole = true := rfl

lemma GroupMember.whole_toJson (m : GroupMember) : m.toJson.whole = true := by
  simp [toJson, tagJson, Value.whole, wholeMembers, m.profile.whole_toJson]

/-! ### Pages of the listings -/

namespace Catalog

variable (c : Catalog)

/-- The wire form of an entry. -/
def entryJson : (c : Catalog) → c.Item → Value
  | .members => Member.toJson
  | .groups => Group.toJson
  | .groupMembers _ => GroupMember.toJson

/-- The member of a page that holds the entries. -/
def itemsKey : Catalog → String
  | .members | .groupMembers _ => "members"
  | .groups => "groups"

lemma decoder_node (b : PageBody c.Item) :
    c.record.decoder depthLimit (b.toJson c.itemsKey c.entryJson).node = .ok b := by
  cases c with
  | members => exact PageBody.decoder_node (Member.decoder_node 122) (by decide) (by decide) b
  | groups => exact PageBody.decoder_node (Group.decoder_node 123) (by decide) (by decide) b
  | groupMembers =>
    exact PageBody.decoder_node (GroupMember.decoder_node 122) (by decide) (by decide) b

lemma whole_toJson (b : PageBody c.Item) : (b.toJson c.itemsKey c.entryJson).whole = true := by
  have he : ∀ e, (c.entryJson e).whole = true := by
    cases c with
    | members => exact Member.whole_toJson
    | groups => exact Group.whole_toJson
    | groupMembers => exact GroupMember.whole_toJson
  simp [PageBody.toJson, Value.whole, wholeMembers, wholeElements_map he]

/-- **A page that is written out is read as that page**, whatever strings its entries hold. -/
theorem page?_toText (d : Directory) (b : PageBody c.Item) {status : ℕ}
    (hs : Http.isSuccess status = true) (headers : List (String × String))
    (arrival : Arrival) :
    c.page? d (.response status headers
        (Utf8.ofString (b.toJson c.itemsKey c.entryJson).toText) arrival) =
      some (b.page (.ofResponse status (.ofList headers) (arrival.instant d.client.now))) :=
  c.page?_of_decode d headers arrival hs
    (Decoder.decode_toText (c.whole_toJson b) (c.decoder_node b))

end Catalog

/-! ### A sample -/

namespace Sample

/-- The answer that holds a page. -/
def written (c : Catalog) (b : PageBody c.Item) : Answer :=
  .response 200 [] (Utf8.ofString (b.toJson c.itemsKey c.entryJson).toText)

lemma page?_written (c : Catalog) (b : PageBody c.Item) :
    c.page? directory (written c b) = some (b.page .unreported) :=
  c.page?_toText directory b rfl [] none

/-- A page that says how to go on is got from a session in which it waits. -/
lemma fetch_written (c : Catalog) (b : PageBody c.Item) (h : ¬(b.page .unreported).Strays)
    (pt : PageToken) (as : List Answer) :
    ∃ s, (c.pages directory).fetch pt (session (written c b :: as)) =
      (.ok (b.page .unreported), s) := by
  have hn : (session (written c b :: as)).transport.next? = some (written c b) := by
    simp [session, Session.start, Transport.next?]
  have hr : c.read directory pt (session (written c b :: as)).transport.next? =
      .ok (b.page .unreported) :=
    (c.read_ok_iff directory).mpr ⟨_, hn, page?_written c b, h⟩
  rw [c.fetch_apply directory pt (token_client _) isHeaderValue_bearer, hr]
  exact ⟨_, rfl⟩

end Sample

end TeamSync
