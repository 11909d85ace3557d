import TeamSync.Envelope

/-!
Members of a team as the service lists them, and their wire form.
-/

namespace TeamSync

open Json

/-- The wire form of a tag. -/
def tagJson (tag : String) : Value := .object [(".tag", .string tag)]

def tagDecoder : Decoder String := (tagRecord "Tag").decoder

/-- The name of a member. -/
structure PersonName where
  displayName : String
  givenName : String
  surname : String
  deriving DecidableEq, Repr

/-- A member's profile. The status is the service's tag for it. -/
structure Profile where
  accountId : String
  memberId : String
  name : PersonName
  email : String
  groups : List String
  status : String
  deriving DecidableEq, Repr

/-- An administrator role. -/
structure Role where
  id : String
  name : String
  description : String
  deriving DecidableEq, Repr

/-- An entry of a member listing. -/
structure Member where
  profile : Profile
  roles : List Role
  deriving DecidableEq, Repr

namespace PersonName

def empty : PersonName := ⟨"", "", ""⟩

def toJson (n : PersonName) : Value :=
  .object [("display_name", .string n.displayName), ("given_name", .string n.givenName),
    ("surname", .string n.surname)]

def record : Record PersonName :=
  ⟨"struct Name", empty,
    [.defaulted "display_name" Decoder.string fun s n => { n with displayName := s },
      .defaulted "given_name" Decoder.string fun s n => { n with givenName := s },
      .defaulted "surname" Decoder.string fun s n => { n with surname := s }]⟩

end PersonName

namespace Profile

def empty : Profile := ⟨"", "", .empty, "", [], ""⟩

def toJson (p : Profile) : Value :=
  .object [("account_id", .string p.accountId), ("team_member_id", .string p.memberId),
    ("name", p.name.toJson), ("email", .string p.email), ("groups", .array (p.groups.map .string)),
    ("status", tagJson p.status)]

def record : Record Profile :=
  ⟨"struct Profile", empty,
    [.defaulted "account_id" Decoder.string fun s p => { p with accountId := s },
      .required "team_member_id" Decoder.string fun s p => { p with memberId := s },
      .defaulted "name" PersonName.record.decoder fun n p => { p with name := n },
      .defaulted "email" Decoder.string fun s p => { p with email := s },
      .defaulted "groups" Decoder.string.list fun gs p => { p with groups := gs },
      .defaulted "status" tagDecoder fun t p => { p with status := t }]⟩

end Profile

namespace Role

def toJson (r : Role) : Value :=
  .object [("role_id", .string r.id), ("name", .string r.name),
    ("description", .string r.description)]

def record : Record Role :=
  ⟨"struct Role", ⟨"", "", ""⟩,
    [.required "role_id" Decoder.string fun s r => { r with id := s },
      .defaulted "name" Decoder.string fun s r => { r with name := s },
      .defaulted "description" Decoder.string fun s r => { r with description := s }]⟩

end Role

namespace Member

def toJson (m : Member) : Value :=
  .object [("profile", m.profile.toJson), ("roles", .array (m.roles.map Role.toJson))]

def record : Record Member :=
  ⟨"struct MemberRecord", ⟨.empty, []⟩,
    [.required "profile" Profile.record.decoder fun p m => { m with profile := p },
      .defaulted "roles" Role.record.decoder.list fun rs m => { m with roles := rs }]⟩

end Member

/-! ### Account status -/

/-- Whether an account may be used. -/
inductive AccountStatus where
  | enabled
  | disabled
  | deleted
  | unspecified
  deriving DecidableEq, Repr

namespace AccountStatus

def name : AccountStatus → String
  | .enabled => "enabled"
  | .disabled => "disabled"
  | .deleted => "deleted"
  | .unspecified => "unspecified"

/-- What a tag of the service says. -/
def ofTag (tag : String) : AccountStatus :=
  if tag = "active" ∨ tag = "invited" then .enabled
  else if tag = "suspended" then .disabled
  else if tag = "removed" then .deleted
  else .unspecified

def all : List AccountStatus := [.enabled, .disabled, .deleted, .unspecified]

def decoder : Decoder AccountStatus := Variant.decoder (all.map fun s => (s.name, s))

end AccountStatus

def Profile.accountStatus (p : Profile) : AccountStatus := .ofTag p.status

/-! ### Selectors -/

/-- How a request names a member. -/
inductive UserSelector where
  | memberId (id : String)
  | email (address : String)
  deriving DecidableEq, Repr

namespace UserSelector

def toJson : UserSelector → Value
  | .memberId id => .object [(".tag", .string "team_member_id"), ("team_member_id", .string id)]
  | .email address => .object [(".tag", .string "email"), ("email", .string address)]

def decoder : Decoder UserSelector :=
  Variant.tagged "internally tagged enum UserSelector"
    [("team_member_id", ⟨"struct variant UserSelector::TeamMemberId", .memberId "",
        [.required "team_member_id" Decoder.string fun s _ => .memberId s]⟩),
      ("email", ⟨"struct variant UserSelector::Email", .email "",
        [.required "email" Decoder.string fun s _ => .email s]⟩)]

end UserSelector

end TeamSync
