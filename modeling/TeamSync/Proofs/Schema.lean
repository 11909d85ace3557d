import TeamSync.Directory.Answer
import TeamSync.Proofs.Json.Growth

/-!
What the answers declare that a synchronisation reads, and what becomes of them when the service
adds to them. Each record declares the names of its fields; members of other names may be inserted
anywhere, with any values, and all members may change places.
-/

namespace TeamSync

open Json

/-! ### Names and shapes -/

def tagFields : List (String × Shape) := [(".tag", .leaf)]

def PersonName.declared : List (String × Shape) :=
  [("display_name", .leaf), ("given_name", .leaf), ("surname", .leaf)]

def Profile.declared : List (String × Shape) :=
  [("account_id", .leaf), ("team_member_id", .leaf), ("name", .record PersonName.declared),
    ("email", .leaf), ("groups", .leaf), ("status", .record tagFields)]

def Role.declared : List (String × Shape) :=
  [("role_id", .leaf), ("name", .leaf), ("description", .leaf)]

def Member.declared : List (String × Shape) :=
  [("profile", .record Profile.declared), ("roles", .list (.record Role.declared))]

def Group.declared : List (String × Shape) :=
  [("group_id", .leaf), ("group_name", .leaf), ("group_management_type", .record tagFields),
    ("member_count", .leaf)]

def GroupMember.declared : List (String × Shape) :=
  [("profile", .record Profile.declared), ("access_type", .record tagFields)]

/-- A page declares its entries under a name of their own. -/
def PageBody.declared (items : String) (entry : List (String × Shape)) : List (String × Shape) :=
  [("cursor", .leaf), ("has_more", .leaf), (items, .list (.record entry))]

def Invited.declared : List (String × Shape) :=
  [(".tag", .leaf), ("profile", .record Profile.declared)]

def InviteAnswer.declared : List (String × Shape) :=
  [(".tag", .leaf), ("complete", .list (.record Invited.declared))]

def Envelope.declared : List (String × Shape) :=
  [("error_summary", .leaf), ("error", .record tagFields)]

/-! ### Records conform to what they declare -/

section

-- fields commute if what they set does, and a record follows what its fields follow
attribute [local simp] Field.required Field.defaulted Field.commutes_make Field.fits_make
  Decoder.follows_leaf

lemma conforms_tagRecord (name : String) : (tagRecord name).Conforms tagFields where
  distinct := by simp [tagRecord]
  commute := by simp [tagRecord]
  fits := by simp [tagRecord, tagFields]

lemma follows_tag : tagDecoder.Follows (.record tagFields) := (conforms_tagRecord "Tag").follows

lemma PersonName.conforms : record.Conforms declared where
  distinct := by simp [record]
  commute := by simp [record]
  fits := by simp [record, declared]

lemma Profile.conforms : record.Conforms declared where
  distinct := by simp [record]
  commute := by simp [record]
  fits := by simp [record, declared, follows_tag, PersonName.conforms.follows]

lemma Role.conforms : record.Conforms declared where
  distinct := by simp [record]
  commute := by simp [record]
  fits := by simp [record, declared]

lemma Member.conforms : record.Conforms declared where
  distinct := by simp [record]
  commute := by simp [record]
  fits := by simp [record, declared, Profile.conforms.follows, Role.conforms.follows.list]

lemma Group.conforms : record.Conforms declared where
  distinct := by simp [record]
  commute := by simp [record]
  fits := by simp [record, declared, follows_tag]

lemma GroupMember.conforms : record.Conforms declared where
  distinct := by simp [record]
  commute := by simp [record]
  fits := by simp [record, declared, follows_tag, Profile.conforms.follows]

/-- A page conforms if its entries do and their name is not that of another part of it. -/
lemma PageBody.conforms {α : Type} {r : Record α} {entry : List (String × Shape)}
    (h : r.Conforms entry) (name : String) {items : String}
    (hitems : items ≠ "cursor" ∧ items ≠ "has_more") :
    (record name items r.decoder).Conforms (declared items entry) where
  distinct := by simp [record, hitems.1.symm, hitems.2.symm]
  commute := by simp [record]
  fits := by simp [record, declared, h.follows.list]

lemma Invited.conforms : record.Conforms declared where
  distinct := by simp [record]
  commute := by simp [record]
  fits := by simp [record, declared, Profile.conforms.follows.nullable]

lemma InviteAnswer.conforms : record.Conforms declared where
  distinct := by simp [record]
  commute := by simp [record]
  fits := by simp [record, declared, Invited.conforms.follows.list]

lemma Envelope.conforms : record.Conforms declared where
  distinct := by simp [record]
  commute := by simp [record]
  fits := by simp [record, declared, (conforms_tagRecord "ErrorTag").follows.nullable]

end

/-! ### Answers that grow -/

/-- The answers that a synchronisation reads, each with what it declares. -/
inductive Declares : {ρ : Type} → Record ρ → List (String × Shape) → Prop where
  | members : Declares PageBody.members (PageBody.declared "members" Member.declared)
  | groups : Declares PageBody.groups (PageBody.declared "groups" Group.declared)
  | groupMembers :
      Declares PageBody.groupMembers (PageBody.declared "members" GroupMember.declared)
  | invitation : Declares InviteAnswer.record InviteAnswer.declared
  | envelope : Declares Envelope.record Envelope.declared

variable {ρ : Type} {r : Record ρ} {fs : List (String × Shape)}

lemma Declares.conforms (h : Declares r fs) : r.Conforms fs := by
  cases h with
  | members => exact PageBody.conforms Member.conforms _ (by decide)
  | groups => exact PageBody.conforms Group.conforms _ (by decide)
  | groupMembers => exact PageBody.conforms GroupMember.conforms _ (by decide)
  | invitation => exact InviteAnswer.conforms
  | envelope => exact Envelope.conforms

/-- **What the service adds disturbs nobody.** If a JSON text is read as a page, as the answer to an
invitation or as the body of an error, then so is every JSON text that it grows into: to each
object of a declared record, at any depth, any members may be added whose names are texts that the
record does not declare, with any values, however deep and of whatever numbers and strings, and all
members may change places. What is read is the same. A name with half of a surrogate pair in it is
no text, and is not allowed. -/
theorem decode_of_grown (hr : Declares r fs) {text text' : List UInt8} {n n' : Node}
    (ht : IsText text n) (ht' : IsText text' n') (h : Grows (.record fs) n n') {x : ρ}
    (hx : r.decoder.decode text = .ok x) : r.decoder.decode text' = .ok x :=
  hr.conforms.follows.decode ht ht' h hx

/-! ### Samples -/

namespace Sample

/-- A page of groups with its members in some order. -/
def plainPage : Value :=
  .object [("has_more", .bool false), ("groups", .array [.object [("group_id", .string "g:1")]])]

/-- The page with members added to it and to its group, and all in another order. -/
def grownPage : Value :=
  .object [("total", .array [.ofNat 1, .null]),
    ("groups", .array [.object [("owner", .object [("group_id", .null)]),
      ("group_id", .string "g:1")]]),
    ("has_more", .bool false)]

lemma undeclared_ofString {fs : List (String × Shape)} {name : String}
    (h : name ∉ fs.map Prod.fst) : Undeclared fs (.ofString name) :=
  ⟨name, StringLiteral.read_ofString name, h⟩

lemma grows_page : Grows (.record (PageBody.declared "groups" Group.declared))
    plainPage.node grownPage.node := by
  have howner : ∀ m ∈ memberNodes [("owner", .object [("group_id", .null)])],
      Undeclared Group.declared m.1 := by
    rintro m (_ | ⟨_, ⟨⟩⟩)
    exact undeclared_ofString (by decide)
  have htotal : ∀ m ∈ memberNodes [("total", .array [.ofNat 1, .null])],
      Undeclared (PageBody.declared "groups" Group.declared) m.1 := by
    rintro m (_ | ⟨_, ⟨⟩⟩)
    exact undeclared_ofString (by decide)
  have hgroups : ("groups", .list (.record Group.declared)) ∈
      PageBody.declared "groups" Group.declared := by simp [PageBody.declared]
  have hgroup : Grows (.record Group.declared)
      (.object (memberNodes [("group_id", .string "g:1")]) .closed)
      (.object (memberNodes [("owner", .object [("group_id", .null)]),
        ("group_id", .string "g:1")]) .closed) :=
    .object (.kept _ (.nil _)) howner (.swap _ _ _)
  have hentries : Grows (.list (.record Group.declared)) _ _ := .list (.cons hgroup (.nil _))
  exact .object (.kept _ (.declared hgroups (StringLiteral.read_ofString "groups") hentries
    (.nil _))) htotal (List.reverse_perm _).symm

lemma decode_plainPage : PageBody.groups.decoder.decode (Utf8.ofString plainPage.toText) =
    .ok ⟨"", false, [⟨"g:1", "", "", 0⟩]⟩ := by
  decide +kernel

/-- A page of groups with nothing in it, and one that has a member besides whose name is half of a
surrogate pair. -/
def emptyPage : List UInt8 := Utf8.ofString "\x7b\x7d"

def oddPage : List UInt8 := Utf8.ofString "\x7b\"\\udc00\":null\x7d"

def oddKey : StringLiteral := ⟨[.unit 0xDC00], none⟩

lemma isText_emptyPage : IsText emptyPage (.object [] .closed) := by
  exact (Spells.emptyObject blanks_nil).bare

lemma isText_oddPage : IsText oddPage (.object [(oddKey, .null)] .closed) := by
  have hd : SpellsHex 13 0x64 := .lower (by decide : 3 < 6)
  have hc : SpellsHex 12 0x63 := .lower (by decide : 2 < 6)
  have hzero : SpellsHex 0 0x30 := .decimal (by decide)
  have hkey : SpellsString oddKey [0x22, 0x5C, 0x75, 0x64, 0x63, 0x30, 0x30, 0x22] :=
    .intro (.cons (.unit hd hc hzero hzero) .nil)
  exact (Spells.object (.lastMember (.bareMember hkey .null))).bare

end Sample

open Sample in
theorem decode_of_grown_page :
    Declares PageBody.groups (PageBody.declared "groups" Group.declared) ∧
      IsText (Utf8.ofString plainPage.toText) plainPage.node ∧
      IsText (Utf8.ofString grownPage.toText) grownPage.node ∧
      Grows (.record (PageBody.declared "groups" Group.declared)) plainPage.node grownPage.node ∧
      PageBody.groups.decoder.decode (Utf8.ofString plainPage.toText) =
        .ok ⟨"", false, [⟨"g:1", "", "", 0⟩]⟩ ∧
      PageBody.groups.decoder.decode (Utf8.ofString grownPage.toText) =
        .ok ⟨"", false, [⟨"g:1", "", "", 0⟩]⟩ := by
  have hplain : IsText (Utf8.ofString plainPage.toText) plainPage.node := isText_toText rfl
  have hgrown : IsText (Utf8.ofString grownPage.toText) grownPage.node := isText_toText rfl
  exact ⟨.groups, hplain, hgrown, grows_page, decode_plainPage,
    decode_of_grown .groups hplain hgrown grows_page decode_plainPage⟩

open Sample in
/-- A member whose name is no text disturbs a page, although no field has that name. -/
theorem decode_of_odd_name :
    IsText emptyPage (.object [] .closed) ∧ IsText oddPage (.object [(oddKey, .null)] .closed) ∧
      (∀ f ∈ PageBody.groups.fields, oddKey.read ≠ .ok f.name) ∧
      PageBody.groups.decoder.decode emptyPage = .ok ⟨"", false, []⟩ ∧
      PageBody.groups.decoder.decode oddPage = .error (.malformed .loneSurrogate) := by
  refine ⟨isText_emptyPage, isText_oddPage, fun f _ => ?_, by decide +kernel, by decide +kernel⟩
  have hread : oddKey.read = .error .loneSurrogate := by decide +kernel
  rw [hread]
  nofun

end TeamSync
