import TeamSync.Member

/-!
Resources of the identity graph: users, groups and roles, each with a key of its own.
-/

namespace TeamSync

open Json

/-- The kinds of things in a team. -/
inductive ResourceKind where
  | user
  | group
  | role
  deriving DecidableEq, Repr

namespace ResourceKind

def all : List ResourceKind := [.user, .group, .role]

def name : ResourceKind → String
  | .user => "user"
  | .group => "group"
  | .role => "role"

/-- The name in front of people. -/
def displayName : ResourceKind → String
  | .user => "User"
  | .group => "Group"
  | .role => "Role"

/-- What can be held of a resource of the kind. -/
def slugs : ResourceKind → List String
  | .user => []
  | .group => ["member", "owner"]
  | .role => ["member"]

def toJson (k : ResourceKind) : Value := .string k.name

def decoder : Decoder ResourceKind := Variant.decoder (all.map fun k => (k.name, k))

end ResourceKind

/-- The key of a resource: its kind and the identifier it has with the service. -/
structure ResourceId where
  kind : ResourceKind
  id : String
  deriving DecidableEq, Repr

namespace ResourceId

def text (r : ResourceId) : String := r.kind.name ++ ":" ++ r.id

/-- The identifier of a resource that has to be of some kind. -/
def expectKind (r : ResourceId) (kind : ResourceKind) : Except Error String :=
  if r.kind = kind then .ok r.id
  else .error (.argument (.wrongResourceKind kind.name r.kind.name))

/-- The identifier of a principal, which has to be a user. -/
def expectUser (r : ResourceId) : Except Error String :=
  if r.kind = .user then .ok r.id
  else .error (.argument (.wrongPrincipalKind ResourceKind.user.name r.kind.name))

def toJson (r : ResourceId) : Value :=
  .object [("resource_type", r.kind.toJson), ("resource", .string r.id)]

def record : Record ResourceId :=
  ⟨"struct ResourceId", ⟨.user, ""⟩,
    [.required "resource_type" ResourceKind.decoder fun k r => { r with kind := k },
      .required "resource" Decoder.string fun s r => { r with id := s }]⟩

end ResourceId

/-- What a resource says as an account. -/
structure UserTrait where
  email : String
  login : String
  status : AccountStatus
  deriving DecidableEq, Repr

namespace UserTrait

def toJson (u : UserTrait) : Value :=
  .object [("email", .string u.email), ("login", .string u.login),
    ("status", .string u.status.name)]

def record : Record UserTrait :=
  ⟨"struct UserTrait", ⟨"", "", .unspecified⟩,
    [.required "email" Decoder.string fun s u => { u with email := s },
      .required "login" Decoder.string fun s u => { u with login := s },
      .required "status" AccountStatus.decoder fun s u => { u with status := s }]⟩

end UserTrait

/-- A resource, with free-form attributes beside what every resource has. -/
structure Resource where
  id : ResourceId
  displayName : String
  parent : Option ResourceId
  attributes : Members
  user : Option UserTrait

namespace Resource

/-- A value that may be missing. -/
def orNull {α : Type} (f : α → Value) : Option α → Value
  | some a => f a
  | none => .null

def toJson (r : Resource) : Value :=
  .object [("id", r.id.toJson), ("display_name", .string r.displayName),
    ("parent_id", orNull ResourceId.toJson r.parent), ("profile", .object r.attributes),
    ("user", orNull UserTrait.toJson r.user)]

def record : Record Resource :=
  ⟨"struct Resource", ⟨⟨.user, ""⟩, "", none, [], none⟩,
    [.required "id" ResourceId.record.decoder fun i r => { r with id := i },
      .required "display_name" Decoder.string fun s r => { r with displayName := s },
      .optional "parent_id" ResourceId.record.decoder fun p r => { r with parent := p },
      .required "profile" Decoder.members fun ms r => { r with attributes := ms },
      .optional "user" UserTrait.record.decoder fun u r => { r with user := u }]⟩

end Resource

end TeamSync
