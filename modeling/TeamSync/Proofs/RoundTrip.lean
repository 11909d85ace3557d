import TeamSync.Graph.Entitlement
import TeamSync.Proofs.Json.Ordered
import TeamSync.Proofs.Wire

/-!
What is written is read back. The records of the graph may hold free-form attributes, so they nest
as deep as those do; the others nest to a depth of their own. The text of a record determines the
record, since without a limit on the depth every text is read back.
-/

namespace TeamSync

open Json

namespace Json

lemma depth_le_membersDepth {ms : List (String × Value)} :
    ∀ m ∈ ms, m.2.depth ≤ membersDepth ms := by
  induction ms with
  | nil => simp
  | cons n ms ih =>
    intro m hm
    rw [membersDepth]
    rcases List.mem_cons.mp hm with rfl | hm
    · omega
    · have := ih m hm
      omega

/-- The members of a record nest one level less deep than the record. -/
lemma exists_depth_of_object {ms : List (String × Value)} {depth : ℕ}
    (h : (Value.object ms).depth ≤ depth) : ∃ d, depth = d + 1 ∧ ∀ m ∈ ms, m.2.depth ≤ d := by
  rw [Value.depth] at h
  refine ⟨depth - 1, by omega, fun m hm => ?_⟩
  have := depth_le_membersDepth m hm
  omega

namespace Decoder

/-- A value that may be missing, if it is never written like a missing one. -/
lemma nullable_node {α : Type} {d : Decoder α} {f : α → Value} {depth : ℕ}
    (h : ∀ a, d depth (f a).node = .ok a) (hn : ∀ a, (f a).node ≠ .null) (o : Option α) :
    d.nullable depth (Resource.orNull f o).node = .ok o := by
  cases o with
  | none => rfl
  | some a =>
    have hread : d.nullable depth (f a).node = (d depth (f a).node).map some := by
      rw [nullable]
      exact hn a
    rw [Resource.orNull, hread, h a]
    rfl

end Decoder

/-- An object of a tag and one other member is read as the record that the tag names. -/
lemma Variant.tagged_node {ρ : Type} {known : List (String × Record ρ)} {tag key : String}
    {r : Record ρ} (hr : find known tag = .ok r) (hk : key ≠ ".tag") (name : String) (depth : ℕ)
    (s : String) :
    tagged name known (depth + 1) (Value.object [(".tag", .string tag), (key, .string s)]).node =
      r.readMembers depth ⟨r.empty, []⟩ (memberNodes [(key, .string s)]) >>= r.complete := by
  have htagged : readTagged known depth ⟨none, []⟩
      (memberNodes [(".tag", .string tag), (key, .string s)]) =
        .ok ⟨some r, memberNodes [(key, .string s)]⟩ := by
    simp [memberNodes, readTagged, refuseTag, named, Value.node, Node.value, tagKey, hr, hk]
  simp only [Value.node, tagged, Decoder.nested, htagged]
  rfl

end Json

/-! ### Records of the graph -/

section

-- how a record is read, member by member, once it is known which field each member belongs to
attribute [local simp] Record.readMember Record.refuseTwice Record.complete Field.required
  Field.optional

@[simp] lemma ResourceKind.decoder_node (depth : ℕ) (k : ResourceKind) :
    decoder depth k.toJson.node = .ok k := by
  simp only [decoder, toJson, Value.node, Variant.decoder, Variant.named,
    StringLiteral.read_ofString]
  cases k <;> rfl

@[simp] lemma AccountStatus.decoder_node (depth : ℕ) (s : AccountStatus) :
    decoder depth (Value.string s.name).node = .ok s := by
  simp only [decoder, Value.node, Variant.decoder, Variant.named, StringLiteral.read_ofString]
  cases s <;> rfl

@[simp] lemma ResourceId.decoder_node (depth : ℕ) (r : ResourceId) :
    record.decoder (depth + 1) r.toJson.node = .ok r := by
  simp [record, toJson]

@[simp] lemma UserTrait.decoder_node (depth : ℕ) (u : UserTrait) :
    record.decoder (depth + 1) u.toJson.node = .ok u := by
  simp [record, toJson]

lemma Resource.decoder_node {r : Resource} (hk : (Value.object r.attributes).Kept) {depth : ℕ}
    (hd : r.toJson.depth ≤ depth) : record.decoder depth r.toJson.node = .ok r := by
  obtain ⟨d, rfl, hm⟩ := exists_depth_of_object hd
  have hid : r.id.toJson.depth ≤ d := hm ("id", r.id.toJson) (by simp)
  have hattributes := Decoder.members_node hk (hm ("profile", .object r.attributes) (by simp))
  obtain ⟨d, rfl, -⟩ := exists_depth_of_object hid
  have hparent := Decoder.nullable_node (ResourceId.decoder_node d) (fun _ => by
    simp [ResourceId.toJson, Value.node]) r.parent
  have huser := Decoder.nullable_node (UserTrait.decoder_node d) (fun _ => by
    simp [UserTrait.toJson, Value.node]) r.user
  simp [record, toJson, hattributes, hparent, huser]

lemma Entitlement.decoder_node {e : Entitlement} (hk : (Value.object e.resource.attributes).Kept)
    {depth : ℕ} (hd : e.toJson.depth ≤ depth) :
    record.decoder depth e.toJson.node = .ok e := by
  obtain ⟨d, rfl, hm⟩ := exists_depth_of_object hd
  have hr : e.resource.toJson.depth ≤ d := hm ("resource", e.resource.toJson) (by simp)
  have hresource := Resource.decoder_node hk hr
  obtain ⟨d, rfl, -⟩ := exists_depth_of_object hr
  have hkinds := Decoder.list_node (ResourceKind.decoder_node d) e.grantableTo
  simp [record, toJson, hresource, hkinds]

lemma Grant.decoder_node {g : Grant}
    (hk : (Value.object g.entitlement.resource.attributes).Kept) {depth : ℕ}
    (hd : g.toJson.depth ≤ depth) : record.decoder depth g.toJson.node = .ok g := by
  obtain ⟨d, rfl, hm⟩ := exists_depth_of_object hd
  have he : g.entitlement.toJson.depth ≤ d := hm ("entitlement", g.entitlement.toJson) (by simp)
  have hentitlement := Entitlement.decoder_node hk he
  obtain ⟨d, rfl, -⟩ := exists_depth_of_object he
  simp [record, toJson, hentitlement]

/-! ### Members and selectors -/

lemma Profile.exists_depth {p : Profile} {depth : ℕ} (hd : p.toJson.depth ≤ depth) :
    ∃ d, depth = d + 2 := by
  obtain ⟨d, rfl, hm⟩ := exists_depth_of_object hd
  have hn : p.name.toJson.depth ≤ d := hm ("name", p.name.toJson) (by simp)
  obtain ⟨d, rfl, -⟩ := exists_depth_of_object hn
  exact ⟨d, rfl⟩

@[simp] lemma UserSelector.decoder_node (depth : ℕ) (s : UserSelector) :
    decoder (depth + 1) s.toJson.node = .ok s := by
  cases s with
  | memberId id =>
    rw [decoder, toJson, Variant.tagged_node (by rfl) (by decide)]
    simp
  | email address =>
    rw [decoder, toJson, Variant.tagged_node (by rfl) (by decide)]
    simp

@[simp] lemma GroupSelector.decoder_node (depth : ℕ) (s : GroupSelector) :
    decoder (depth + 1) s.toJson.node = .ok s := by
  cases s with
  | groupId id =>
    rw [decoder, toJson, Variant.tagged_node (by rfl) (by decide)]
    simp

end

lemma Resource.whole_toJson {r : Resource} (hk : (Value.object r.attributes).Kept) :
    r.toJson.whole = true := by
  have hw : wholeMembers r.attributes = true := by simpa [Value.whole] using hk.whole
  rcases r with ⟨id, name, _ | parent, attributes, _ | user⟩ <;>
    simp_all [toJson, orNull, ResourceId.toJson, ResourceKind.toJson, UserTrait.toJson,
      Value.whole, wholeMembers]

lemma Entitlement.whole_toJson {e : Entitlement}
    (hk : (Value.object e.resource.attributes).Kept) : e.toJson.whole = true := by
  have hkinds := wholeElements_map (f := ResourceKind.toJson) (fun _ => rfl) e.grantableTo
  simp [toJson, Value.whole, wholeMembers, Resource.whole_toJson hk, hkinds]

lemma Grant.whole_toJson {g : Grant} (hk : (Value.object g.entitlement.resource.attributes).Kept) :
    g.toJson.whole = true := by
  simp [toJson, Value.whole, wholeMembers, Entitlement.whole_toJson hk, ResourceId.toJson,
    ResourceKind.toJson]

/-! ### All records -/

/-- The records that are written and read. -/
inductive WireForm where
  | resource
  | entitlement
  | grant
  | member
  | group
  | groupMember
  | userSelector
  | groupSelector

namespace WireForm

def Item : WireForm → Type
  | .resource => Resource
  | .entitlement => Entitlement
  | .grant => Grant
  | .member => Member
  | .group => Group
  | .groupMember => GroupMember
  | .userSelector => UserSelector
  | .groupSelector => GroupSelector

def toJson : (w : WireForm) → w.Item → Value
  | .resource => Resource.toJson
  | .entitlement => Entitlement.toJson
  | .grant => Grant.toJson
  | .member => Member.toJson
  | .group => Group.toJson
  | .groupMember => GroupMember.toJson
  | .userSelector => UserSelector.toJson
  | .groupSelector => GroupSelector.toJson

def decoder : (w : WireForm) → Decoder w.Item
  | .resource => Resource.record.decoder
  | .entitlement => Entitlement.record.decoder
  | .grant => Grant.record.decoder
  | .member => Member.record.decoder
  | .group => Group.record.decoder
  | .groupMember => GroupMember.record.decoder
  | .userSelector => UserSelector.decoder
  | .groupSelector => GroupSelector.decoder

/-- The free-form part of a record. -/
def attributes : (w : WireForm) → w.Item → Members
  | .resource, r => Resource.attributes r
  | .entitlement, e => (Entitlement.resource e).attributes
  | .grant, g => (Grant.entitlement g).resource.attributes
  | .member, _ | .group, _ | .groupMember, _ | .userSelector, _ | .groupSelector, _ => []

variable {w : WireForm} {a b : w.Item}

lemma decoder_node (hk : (Value.object (w.attributes a)).Kept) {depth : ℕ}
    (hd : (w.toJson a).depth ≤ depth) : w.decoder depth (w.toJson a).node = .ok a := by
  cases w with
  | resource => exact Resource.decoder_node hk hd
  | entitlement => exact Entitlement.decoder_node hk hd
  | grant => exact Grant.decoder_node hk hd
  | member =>
    obtain ⟨d, rfl, hm⟩ := exists_depth_of_object hd
    obtain ⟨d, rfl⟩ := Profile.exists_depth
      (hm ("profile", (Member.profile a).toJson) (by simp))
    exact Member.decoder_node d a
  | group =>
    obtain ⟨d, rfl, hm⟩ := exists_depth_of_object hd
    have ht : (tagJson (Group.management a)).depth ≤ d :=
      hm ("group_management_type", tagJson (Group.management a)) (by simp)
    obtain ⟨d, rfl, -⟩ := exists_depth_of_object ht
    exact Group.decoder_node d a
  | groupMember =>
    obtain ⟨d, rfl, hm⟩ := exists_depth_of_object hd
    obtain ⟨d, rfl⟩ := Profile.exists_depth
      (hm ("profile", (GroupMember.profile a).toJson) (by simp))
    exact GroupMember.decoder_node d a
  | userSelector =>
    cases a with
    | memberId id =>
      obtain ⟨d, rfl, -⟩ := exists_depth_of_object hd
      exact UserSelector.decoder_node d (.memberId id)
    | email address =>
      obtain ⟨d, rfl, -⟩ := exists_depth_of_object hd
      exact UserSelector.decoder_node d (.email address)
  | groupSelector =>
    obtain ⟨d, rfl, -⟩ := exists_depth_of_object hd
    exact GroupSelector.decoder_node d a

lemma whole_toJson (hk : (Value.object (w.attributes a)).Kept) : (w.toJson a).whole = true := by
  cases w with
  | resource => exact Resource.whole_toJson hk
  | entitlement => exact Entitlement.whole_toJson hk
  | grant => exact Grant.whole_toJson hk
  | member => exact Member.whole_toJson a
  | group => exact Group.whole_toJson a
  | groupMember => exact GroupMember.whole_toJson a
  | userSelector => cases a <;> rfl
  | groupSelector => rfl

/-- Records that are written alike are the same. -/
lemma eq_of_toText (ha : (Value.object (w.attributes a)).Kept)
    (hb : (Value.object (w.attributes b)).Kept)
    (h : (w.toJson a).toText = (w.toJson b).toText) : a = b := by
  have hn := Value.node_of_toText (whole_toJson ha) (whole_toJson hb) h
  have hda := decoder_node ha (Nat.le_max_left (w.toJson a).depth (w.toJson b).depth)
  have hdb := decoder_node hb (Nat.le_max_right (w.toJson a).depth (w.toJson b).depth)
  rw [hn, hdb] at hda
  exact (Except.ok.inj hda).symm

/-- **What is written is read back.** A record whose free-form attributes are kept in order and
hold only integers among their numbers is read back from its text as it was, if the text nests no
deeper than what is kept may nest. No other such record is written like it. -/
theorem reads_back (w : WireForm) (a : w.Item) (ha : (Value.object (w.attributes a)).Kept) :
    ((w.toJson a).depth ≤ depthLimit →
        w.decoder.decode (Utf8.ofString (w.toJson a).toText) = .ok a) ∧
      ∀ b : w.Item, (Value.object (w.attributes b)).Kept →
        (w.toJson b).toText = (w.toJson a).toText → b = a :=
  ⟨fun hd => Decoder.decode_toText (whole_toJson ha) (decoder_node ha hd),
    fun _ hb h => eq_of_toText hb ha h⟩

end WireForm

/-! ### A sample -/

namespace Sample

/-- Attributes with the least and the greatest integer and with a string that has to be escaped. -/
def extremes : Members :=
  [("least", .number (.int (-0x8000000000000000) (by decide))),
    ("list", .array [.null, .bool true, .object [("", .string "\"\\\n\x01 é 😀")]]),
    ("most", .ofNat 0xFFFFFFFFFFFFFFFF)]

lemma kept_extremes : (Value.object extremes).Kept where
  whole := rfl
  ordered := by
    have hkeys : Members.Increasing extremes := by
      rw [Members.Increasing]
      decide +kernel
    refine ⟨hkeys, ?_⟩
    simp [Value.Ordered, OrderedMembers, OrderedElements, extremes, Members.Increasing,
      Value.ofNat]

/-- Members of a group that has such attributes. -/
def seat : Grant :=
  .held (.assignment ⟨⟨.group, "g:1"⟩, "Staff", some ⟨.role, "r"⟩, extremes,
    some ⟨"a@x", "a", .disabled⟩⟩ "member" "Staff" "") ⟨.user, "dbmid:1"⟩

end Sample

open Sample in
theorem reads_back_seat :
    (Value.object (WireForm.grant.attributes seat)).Kept ∧
      (WireForm.grant.toJson seat).depth ≤ depthLimit ∧
      WireForm.grant.decoder.decode (Utf8.ofString (WireForm.grant.toJson seat).toText) =
        .ok seat ∧
      ∀ b : WireForm.grant.Item, (Value.object (WireForm.grant.attributes b)).Kept →
        (WireForm.grant.toJson b).toText = (WireForm.grant.toJson seat).toText → b = seat := by
  have h := WireForm.reads_back .grant seat kept_extremes
  exact ⟨kept_extremes, by decide, h.1 (by decide), h.2⟩

end TeamSync
