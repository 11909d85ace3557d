import TeamSync.Member

/-!
Groups of a team as the service lists them, and their wire form.
-/

namespace TeamSync

open Json

/-- A group. Who manages it is the service's tag for that. -/
structure Group where
  id : String
  name : String
  management : String
  memberCount : UInt64
  deriving DecidableEq, Repr

/-- An entry of a listing of a group's members. The access is the service's tag for it. -/
structure GroupMember where
  profile : Profile
  access : String
  deriving DecidableEq, Repr

namespace Group

def toJson (g : Group) : Value :=
  .object [("group_id", .string g.id), ("group_name", .string g.name),
    ("group_management_type", tagJson g.management), ("member_count", .ofNat g.memberCount)]

def record : Record Group :=
  ⟨"struct Group", ⟨"", "", "", 0⟩,
    [.required "group_id" Decoder.string fun s g => { g with id := s },
      .defaulted "group_name" Decoder.string fun s g => { g with name := s },
      .defaulted "group_management_type" tagDecoder fun t g => { g with management := t },
      .defaulted "member_count" Decoder.uint64 fun n g => { g with memberCount := n }]⟩

end Group

namespace GroupMember

def toJson (m : GroupMember) : Value :=
  .object [("profile", m.profile.toJson), ("access_type", tagJson m.access)]

def record : Record GroupMember :=
  ⟨"struct GroupMember", ⟨.empty, ""⟩,
    [.required "profile" Profile.record.decoder fun p m => { m with profile := p },
      .defaulted "access_type" tagDecoder fun t m => { m with access := t }]⟩

end GroupMember

/-- The access a member has to a group. -/
inductive GroupAccess where
  | member
  | owner
  deriving DecidableEq, Repr

namespace GroupAccess

def name : GroupAccess → String
  | .member => "member"
  | .owner => "owner"

/-- What a tag of the service says, if it is known. -/
def ofTag? (tag : String) : Option GroupAccess :=
  if tag = "member" then some .member else if tag = "owner" then some .owner else none

end GroupAccess

def GroupMember.knownAccess? (m : GroupMember) : Option GroupAccess :=
  GroupAccess.ofTag? m.access

/-- How a request names a group. -/
inductive GroupSelector where
  | groupId (id : String)
  deriving DecidableEq, Repr

namespace GroupSelector

def toJson : GroupSelector → Value
  | .groupId id => .object [(".tag", .string "group_id"), ("group_id", .string id)]

def decoder : Decoder GroupSelector :=
  Variant.tagged "internally tagged enum GroupSelector"
    [("group_id", ⟨"struct variant GroupSelector::GroupId", .groupId "",
      [.required "group_id" Decoder.string fun s _ => .groupId s]⟩)]

end GroupSelector

end TeamSync
