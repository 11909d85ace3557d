import TeamSync.Directory
import TeamSync.Sync.Syncer
import TeamSync.Text.Blank

/-!
Users: the members of the team, and the making and ending of their accounts.
-/

namespace TeamSync.Users

/-- The user of a profile. Its attributes stand in the order of their keys. -/
def resource (p : Profile) (parent : Option ResourceId) : Resource :=
  ⟨⟨.user, p.memberId⟩, p.email, parent,
    [("email", .string p.email), ("first_name", .string p.name.givenName),
      ("id", .string p.accountId),
      ("last_name", .string p.name.surname), ("status", .string p.status),
      ("team_member_id", .string p.memberId)],
    some ⟨p.email, p.email, p.accountStatus⟩⟩

/-- The users of a page of members. -/
def resources (parent : Option ResourceId) (ms : List Member) : List Resource :=
  ms.map fun m => resource m.profile parent

def list (d : Directory) (parent : Option ResourceId) (token : PageToken) :
    Step (SyncPage Resource) := do
  let page ← d.members.fetch token
  pure (.ofPage page (resources parent))

/-- The address an account is made for: a string that is more than blanks, without blanks around
it. -/
def email? (attributes : Json.Members) : Option String :=
  match attributes.get? "email" with
  | some (.string s) => if Text.blank s then none else some (Text.trim s)
  | _ => none

/-- Makes an account by inviting its address. -/
def create (d : Directory) (attributes : Json.Members) : Step CreatedAccount := do
  match email? attributes with
  | none => Step.fail (.argument (.missingField "email"))
  | some email =>
    let a ← (d.invite email).rescue fun e => do
      Step.log .warn "Failed to create user" [("error", .text e.message)]
      Step.fail e
    let p ← Step.ofExcept a.value.newMember
    Step.log .debug "User created" [("team_member_id", .text p.memberId)]
    pure ⟨resource p none, [.rateLimit a.rateLimit]⟩

/-- Ends an account by removing the member. -/
def delete (d : Directory) (id : ResourceId) : Step Annotations := do
  let member ← Step.ofExcept (id.expectKind .user)
  let a ← (d.remove member).rescue fun e => do
    Step.log .warn "Failed to delete user"
      [("error", .text e.message), ("team_member_id", .text member)]
    Step.fail e
  pure [.rateLimit a.rateLimit]

/-- Users hold entitlements but have none that could be held. -/
def syncer (d : Directory) : Syncer where
  kind := .user
  list := list d
  entitlements _ := .ok []
  grants _ _ := pure (.last [] [])
  provisioner := none
  accounts := some ⟨create d, delete d⟩

end TeamSync.Users
